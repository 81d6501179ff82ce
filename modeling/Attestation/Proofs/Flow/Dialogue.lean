import Mathlib
import Attestation.Proofs.Except
import Attestation.Proofs.Flow.Replies
import Attestation.Proofs.Flow.Session

/-!
Main statement: all that may be asked and replied in a proof flow at a provider, and what comes of
it. The wait for a round is one induction over the replies (`holds_awaitAfter`), the rest is put
together from its parts (`holds_prove`).
-/

namespace Attestation

/-- A question that posts an object. -/
structure HttpRequest.Posts (q : HttpRequest) (path : String) (members : List (String × Json)) :
    Prop where
  method : q.method = "POST"
  path : q.path = path
  contentType : q.contentType = some "application/json"
  body : Json.read? .value q.body = some (.object members)

lemma Poll.length_rest_le (policy : PollPolicy) (draw : UInt32 → Float) (probes : UInt32)
    (answers : List (Except Fault Bool)) :
    (waitAfter policy draw probes answers).rest.length ≤ answers.length := by
  induction answers generalizing probes with
  | nil => exact le_rfl
  | cons answer answers ih =>
    rw [waitAfter, List.length_cons]
    cases verdict? answer with
    | none => exact (ih _).trans (Nat.le_succ _)
    | some result => exact Nat.le_succ _

namespace Provider

/-- A reply behind which a round is asked for again. -/
inductive Pending (p : Provider) (round : UInt64) : HttpReply → Prop
  | early {reply : HttpReply}
    (h : reply.Means p.settings.timeout readRound? (.ok (round, false))) : Pending p round reply
  | dropped : Pending p round .dropped
  | hung : Pending p round .hung
  | failed {status : UInt16} {body : Option String} (hf : HttpReply.IsFailure status) :
    Pending p round (.answer status body)

/-- A reply that ends the wait for a round. -/
inductive Ending (p : Provider) (round : UInt64) : HttpReply → Except Fault Unit → Prop
  | final {reply : HttpReply}
    (h : reply.Means p.settings.timeout readRound? (.ok (round, true))) :
    Ending p round reply (.ok ())
  | other {reply : HttpReply} {n : UInt64} {finalized : Bool}
    (h : reply.Means p.settings.timeout readRound? (.ok (n, finalized))) (hn : n ≠ round) :
    Ending p round reply (.error (.invalidResponse s!"asked for round {round}, got round {n}"))
  | undecodable {status : UInt16} {body : Option String} (hs : HttpReply.IsSuccess status)
    (hb : ∀ text, HttpReply.received status body = some text → readRound? text = none) :
    Ending p round (.answer status body) (.error (.invalidResponse "undecodable body"))
  | refused {status : UInt16} {body : Option String} (hs : ¬ HttpReply.IsSuccess status)
    (hf : ¬ HttpReply.IsFailure status) : Ending p round (.answer status body)
      (.error (.oracleRefused status (HttpReply.shown status body)))

/-- A wait for a round: what is asked and replied until a reply ends it. -/
inductive Waits (p : Provider) (round : UInt64) : Talk → Except Fault Unit → Prop
  | last {reply : HttpReply} {result : Except Fault Unit} (h : p.Ending round reply result) :
    Waits p round [(p.roundQuestion round, reply)] result
  | again {reply : HttpReply} {xs : Talk} {result : Except Fault Unit} (h : p.Pending round reply)
    (hw : Waits p round xs result) : Waits p round ((p.roundQuestion round, reply) :: xs) result

/-- How a request is submitted, and what comes of it: the handle of the request, or none where it
is rejected. -/
inductive Submits (p : Provider) (request : Request) :
    Talk → Except Fault (Option RequestId) → Prop
  | unencodable {e : Error} (he : Codec.encode request = .error e) :
    Submits p request [] (.error (.attestation e))
  | failed {data : Bytes} {reply : HttpReply} {e : Fault} (he : Codec.encode request = .ok data)
    (h : reply.Means p.settings.timeout readSubmitted? (.error e)) :
    Submits p request [(p.submitQuestion data, reply)] (.error e)
  | roundless {data : Bytes} {reply : HttpReply} (he : Codec.encode request = .ok data)
    (h : reply.Means p.settings.timeout readSubmitted? (.ok (true, none))) :
    Submits p request [(p.submitQuestion data, reply)]
      (.error (.invalidResponse "accepted request without a round"))
  | rejected {data : Bytes} {reply : HttpReply} {round : Option UInt64}
    (he : Codec.encode request = .ok data)
    (h : reply.Means p.settings.timeout readSubmitted? (.ok (false, round))) :
    Submits p request [(p.submitQuestion data, reply)] (.ok none)
  | accepted {data : Bytes} {reply : HttpReply} {round : UInt64}
    (he : Codec.encode request = .ok data)
    (h : reply.Means p.settings.timeout readSubmitted? (.ok (true, some round))) :
    Submits p request [(p.submitQuestion data, reply)] (.ok (some ⟨round, data⟩))

/-- What is asked and replied in a proof flow, and what comes of it. -/
inductive Dialogue (p : Provider) (request : Request) : Talk → Except Fault Outcome → Prop
  | unsubmitted {xs : Talk} {e : Fault} (hs : p.Submits request xs (.error e)) :
    Dialogue p request xs (.error e)
  | rejected {xs : Talk} (hs : p.Submits request xs (.ok none)) :
    Dialogue p request xs (.ok (.notProved .submitted))
  | unfinalized {xs ys : Talk} {id : RequestId} {e : Fault}
    (hs : p.Submits request xs (.ok (some id))) (hw : p.Waits id.round ys (.error e)) :
    Dialogue p request (xs ++ ys) (.error e)
  | unfetched {xs ys : Talk} {id : RequestId} {reply : HttpReply} {e : Fault}
    (hs : p.Submits request xs (.ok (some id))) (hw : p.Waits id.round ys (.ok ()))
    (hf : reply.Means p.settings.timeout readProof? (.error e)) :
    Dialogue p request (xs ++ (ys ++ [(p.proofQuestion id.round id.data, reply)])) (.error e)
  | fetched {xs ys : Talk} {id : RequestId} {reply : HttpReply} {answer : ProofReply}
    (hs : p.Submits request xs (.ok (some id))) (hw : p.Waits id.round ys (.ok ()))
    (hf : reply.Means p.settings.timeout readProof? (.ok answer)) :
    Dialogue p request (xs ++ (ys ++ [(p.proofQuestion id.round id.data, reply)]))
      (.ok (Flow.outcome request id answer))

variable {p : Provider} {round : UInt64} {reply : HttpReply}

section Wait

variable {r : Except Fault (UInt64 × Bool)} {result : Except Fault Unit}

lemma finalized_of_means (h : reply.Means p.settings.timeout readRound? r) :
    p.finalized round reply = r >>= fun answer => if answer.1 = round then .ok answer.2
      else .error (.invalidResponse s!"asked for round {round}, got round {answer.1}") := by
  rw [finalized, h.value_eq]
  rfl

lemma Pending.verdict (h : p.Pending round reply) :
    Poll.verdict? (p.finalized round reply) = none := by
  cases h with
  | early h =>
    rw [finalized_of_means h, Except.ok_bind, if_pos rfl]
    rfl
  | dropped => rfl
  | hung => rfl
  | failed hf =>
    rw [finalized_of_means (.failed hf)]
    rfl

lemma Ending.verdict (h : p.Ending round reply result) :
    Poll.verdict? (p.finalized round reply) = some result := by
  cases h with
  | final h =>
    rw [finalized_of_means h, Except.ok_bind, if_pos rfl]
    rfl
  | other h hn =>
    rw [finalized_of_means h, Except.ok_bind, if_neg hn]
    rfl
  | undecodable hs hb =>
    rw [finalized_of_means (.undecodable hs hb)]
    rfl
  | refused hs hf =>
    rw [finalized_of_means (.refused hs hf)]
    rfl

lemma pending_or_ending (p : Provider) (round : UInt64) (reply : HttpReply) :
    p.Pending round reply ∨ ∃ result, p.Ending round reply result := by
  have h := HttpReply.means_value p.settings.timeout readRound? reply
  generalize reply.value p.settings.timeout readRound? = r at h
  cases h with
  | dropped => exact .inl .dropped
  | hung => exact .inl .hung
  | @value status body _ answer hs hb hr =>
    rcases answer with ⟨n, finalized⟩
    have h : (HttpReply.answer status body).Means p.settings.timeout readRound?
        (.ok (n, finalized)) := .value hs hb hr
    by_cases hn : n = round
    · subst hn
      cases finalized with
      | false => exact .inl (.early h)
      | true => exact .inr ⟨_, .final h⟩
    · exact .inr ⟨_, .other h hn⟩
  | undecodable hs hb => exact .inr ⟨_, .undecodable hs hb⟩
  | failed hf => exact .inl (.failed hf)
  | refused hs hf => exact .inr ⟨_, .refused hs hf⟩

/-- The wait for a round behind a number of probes. -/
def awaitAfter (p : Provider) (draw : UInt32 → Float) (round : UInt64) (probes : UInt32)
    (replies : List HttpReply) : Session Unit :=
  let w := Poll.waitAfter p.policy draw probes (replies.map (p.finalized round))
  let answered := replies.length - w.rest.length
  let asked := if w.result.isSome then answered else answered + 1
  ⟨List.replicate asked (p.roundQuestion round), w.result, replies.drop answered, w.sleeps⟩

variable {draw : UInt32 → Float} {probes : UInt32} {replies : List HttpReply}

lemma awaitAfter_of_ending (h : p.Ending round reply result) :
    p.awaitAfter draw round probes (reply :: replies) =
      ⟨[p.roundQuestion round], some result, replies, []⟩ := by
  simp [awaitAfter, Poll.waitAfter, h.verdict]

lemma awaitAfter_of_pending (h : p.Pending round reply) :
    let t := p.awaitAfter draw round (Poll.next probes) replies
    p.awaitAfter draw round probes (reply :: replies) =
      ⟨p.roundQuestion round :: t.questions, t.result, t.replies,
        p.policy.delay (Poll.next probes) (draw (Poll.next probes)) :: t.sleeps⟩ := by
  have hle := Poll.length_rest_le p.policy draw (Poll.next probes)
    (replies.map (p.finalized round))
  rw [List.length_map] at hle
  simp only [awaitAfter, List.map_cons, Poll.waitAfter, h.verdict, List.length_cons]
  rw [Nat.succ_sub hle, List.drop_succ_cons]
  split <;> rfl

lemma holds_awaitAfter (p : Provider) (draw : UInt32 → Float) (round : UInt64) (probes : UInt32) :
    Session.Holds (p.awaitAfter draw round probes) (p.Waits round) := by
  intro replies
  -- what a reply says to the wait (`verdict`) tells which constructor its question stands under
  induction replies generalizing probes with
  | nil =>
    intro questions result rest
    constructor
    · rintro ⟨-, hr, -⟩
      cases hr
    · rintro ⟨xs, hxs, -, hrest⟩
      cases hxs <;> cases hrest
  | cons reply replies ih =>
    intro questions result rest
    rcases pending_or_ending p round reply with h | ⟨result', h⟩
    · rw [awaitAfter_of_pending h]
      constructor
      · rintro ⟨rfl, hr, hrest⟩
        obtain ⟨xs, hxs, hq, rfl⟩ := (ih _ _ _ _).mp ⟨rfl, hr, hrest⟩
        exact ⟨_, .again h hxs, congrArg _ hq, rfl⟩
      · rintro ⟨xs, hxs, rfl, hrest⟩
        cases hxs with
        | last h' =>
          cases hrest
          cases h.verdict.symm.trans h'.verdict
        | again _ hxs =>
          cases hrest
          obtain ⟨hq, hr, hrest⟩ := (ih _ _ _ _).mpr ⟨_, hxs, rfl, rfl⟩
          exact ⟨congrArg _ hq, hr, hrest⟩
    · rw [awaitAfter_of_ending h]
      constructor
      · rintro ⟨rfl, hr, rfl⟩
        cases hr
        exact ⟨_, .last h, rfl, rfl⟩
      · rintro ⟨xs, hxs, rfl, hrest⟩
        cases hxs with
        | last h' =>
          cases hrest
          cases h.verdict.symm.trans h'.verdict
          exact ⟨rfl, rfl, rfl⟩
        | again h' _ =>
          cases hrest
          cases h.verdict.symm.trans h'.verdict

end Wait

section Submit

variable {request : Request} {data : Bytes} {xs : Talk} {r : Except Fault (Bool × Option UInt64)}
  {result : Except Fault (Option RequestId)}

lemma submitted_of_means (h : reply.Means p.settings.timeout readSubmitted? r) :
    p.submitted data reply = r >>= fun
      | (true, some n) => .ok (some ⟨n, data⟩)
      | (true, none) => .error (.invalidResponse "accepted request without a round")
      | (false, _) => .ok none := by
  rw [submitted, h.value_eq]
  rfl

lemma submits_iff_of_error {e : Error} (he : Codec.encode request = .error e) :
    p.Submits request xs result ↔ xs = [] ∧ result = .error (.attestation e) := by
  constructor
  · intro h
    cases h with
    | unencodable he' =>
      cases he.symm.trans he'
      exact ⟨rfl, rfl⟩
    | failed he' | roundless he' | rejected he' | accepted he' => cases he.symm.trans he'
  · rintro ⟨rfl, rfl⟩
    exact .unencodable he

lemma submits_submitted (he : Codec.encode request = .ok data) (reply : HttpReply) :
    p.Submits request [(p.submitQuestion data, reply)] (p.submitted data reply) := by
  have h := HttpReply.means_value p.settings.timeout readSubmitted? reply
  rw [submitted_of_means h]
  generalize reply.value p.settings.timeout readSubmitted? = r at h
  rcases r with e | ⟨_ | _, n⟩
  · exact .failed he h
  · exact .rejected he h
  · cases n with
    | none => exact .roundless he h
    | some n => exact .accepted he h

lemma submits_iff_of_ok (he : Codec.encode request = .ok data) :
    p.Submits request xs result ↔
      ∃ reply, xs = [(p.submitQuestion data, reply)] ∧ p.submitted data reply = result := by
  constructor
  · intro h
    cases h with
    | unencodable he' => cases he.symm.trans he'
    | failed he' h | roundless he' h | rejected he' h | accepted he' h =>
      cases he.symm.trans he'
      exact ⟨_, rfl, submitted_of_means h⟩
  · rintro ⟨reply, rfl, rfl⟩
    exact submits_submitted he reply

lemma holds_submit (p : Provider) (request : Request) :
    Session.Holds (p.submit request) (p.Submits request) := by
  cases he : Codec.encode request with
  | error e =>
    have hs : p.submit request = Session.done (.error (.attestation e)) := by
      funext replies
      rw [submit, he]
    rw [hs]
    exact (Session.holds_done _).congr fun xs r => (submits_iff_of_error he).symm
  | ok data =>
    have hs : p.submit request = Session.ask (p.submitQuestion data) (p.submitted data) := by
      funext replies
      rw [submit, he]
    rw [hs]
    exact (Session.holds_ask _ _).congr fun xs r => (submits_iff_of_ok he).symm

end Submit

lemma holds_obtain (p : Provider) (round : UInt64) (data : Bytes) :
    Session.Holds (p.obtain round data) fun xs r => ∃ reply,
      xs = [(p.proofQuestion round data, reply)] ∧ reply.Means p.settings.timeout readProof? r := by
  refine (Session.holds_ask _ _).congr fun _ _ => exists_congr fun _ => ?_
  exact and_congr_right' HttpReply.means_iff.symm

section Flow

variable {request : Request} {xs : Talk} {result : Except Fault Outcome}

/-- What is asked and replied behind the reply to a request, which may have brought a handle. -/
def Proceeds (p : Provider) (request : Request) :
    Option RequestId → Talk → Except Fault Outcome → Prop
  | none => fun xs r => xs = [] ∧ r = .ok (.notProved .submitted)
  | some id => Session.Chained (p.Waits id.round) fun _ => Session.Chained
      (fun xs r => ∃ reply, xs = [(p.proofQuestion id.round id.data, reply)] ∧
        reply.Means p.settings.timeout readProof? r)
      fun answer xs r => xs = [] ∧ r = .ok (Flow.outcome request id answer)

lemma holds_proceeds (p : Provider) (draw : UInt32 → Float) (request : Request) :
    Session.Holds (p.prove draw request)
      (Session.Chained (p.Submits request) (p.Proceeds request)) := by
  refine (holds_submit p request).andThen fun handle => ?_
  cases handle with
  | none => exact Session.holds_done _
  | some id =>
    refine (holds_awaitAfter p draw id.round 0).andThen fun _ => ?_
    exact (holds_obtain p id.round id.data).andThen fun answer => Session.holds_done _

lemma chained_iff_dialogue : Session.Chained (p.Submits request) (p.Proceeds request) xs result ↔
    p.Dialogue request xs result := by
  constructor
  · intro h
    cases h with
    | stop hs => exact .unsubmitted hs
    | @go _ _ handle _ hs h =>
    cases handle with
    | none =>
      obtain ⟨rfl, rfl⟩ := h
      rw [List.append_nil]
      exact .rejected hs
    | some id =>
    cases h with
    | stop hw => exact .unfinalized hs hw
    | go hw h =>
    cases h with
    | stop hf =>
      obtain ⟨reply, rfl, hf⟩ := hf
      exact .unfetched hs hw hf
    | go hf h =>
      obtain ⟨reply, rfl, hf⟩ := hf
      obtain ⟨rfl, rfl⟩ := h
      exact .fetched hs hw hf
  · intro h
    cases h with
    | unsubmitted hs => exact .stop hs
    | rejected hs =>
      rw [← List.append_nil xs]
      exact .go hs ⟨rfl, rfl⟩
    | unfinalized hs hw => exact .go hs (.stop hw)
    | unfetched hs hw hf => exact .go hs (.go hw (.stop ⟨_, rfl, hf⟩))
    | fetched hs hw hf =>
      refine .go hs (.go hw ?_)
      exact @Session.Chained.go _ _ _ _ [_] [] _ _ ⟨_, rfl, hf⟩ ⟨rfl, rfl⟩

lemma holds_prove (p : Provider) (draw : UInt32 → Float) (request : Request) :
    Session.Holds (p.prove draw request) (p.Dialogue request) :=
  (holds_proceeds p draw request).congr fun _ _ => chained_iff_dialogue

end Flow

section Question

lemma posts_submitQuestion (p : Provider) (data : Bytes) :
    (p.submitQuestion data).Posts (p.url "/api/request") [("requestBytes", .bytes data)] := by
  refine ⟨rfl, rfl, rfl, Json.read?_compact (.value (.object ?_))⟩
  exact List.forall_mem_singleton.mpr (.string _)

lemma posts_proofQuestion (p : Provider) (round : UInt64) (data : Bytes) :
    (p.proofQuestion round data).Posts (p.url "/api/proof")
      [("roundId", .nat round.toNat), ("requestBytes", .bytes data)] := by
  refine ⟨rfl, rfl, rfl, Json.read?_compact (.value (.object ?_))⟩
  simp only [List.forall_mem_cons]
  exact ⟨Response.legible_uint64 round, .string _, List.forall_mem_nil _⟩

lemma roundQuestion_inj {m n : UInt64} : p.roundQuestion m = p.roundQuestion n ↔ m = n := by
  refine ⟨fun h => ?_, congrArg _⟩
  have hp := congrArg HttpRequest.path h
  simp only [roundQuestion, HttpRequest.get, url, String.append_right_inj] at hp
  have hd := congrArg (fun s => Json.Reader.natural s.toList) hp
  simp only [Nat.toString_eq_repr, Nat.toList_repr, Json.Reader.natural_toDigits] at hd
  exact UInt64.toNat_inj.mp hd

end Question

theorem session_iff_dialogue (p : Provider) (draw : UInt32 → Float) (request : Request) :
    (∀ replies questions result rest,
      (p.prove draw request replies).Ends questions result rest ↔
        ∃ xs, p.Dialogue request xs result ∧ questions = xs.map (·.1) ∧
          replies = xs.map (·.2) ++ rest) ∧
    (∀ data, (Json.bytes data).bytes? = some data ∧
      (p.submitQuestion data).Posts (p.url "/api/request") [("requestBytes", .bytes data)] ∧
      ∀ round, (p.proofQuestion round data).Posts (p.url "/api/proof")
        [("roundId", .nat round.toNat), ("requestBytes", .bytes data)]) ∧
    (∀ m n, p.roundQuestion m = p.roundQuestion n ↔ m = n) ∧
    (∀ accepted round, readSubmitted? (submitReply accepted round).compact =
      some (accepted, round)) ∧
    (∀ round finalized, readRound? (roundReply round finalized).compact =
      some (round, finalized)) ∧
    ∀ answer, readProof? (ProofReply.format.write answer) = some answer := by
  refine ⟨holds_prove p draw request, fun data => ⟨Json.bytes?_bytes data, ?_, ?_⟩, ?_,
    readSubmitted?_submitReply, readRound?_roundReply, readProof?_write⟩
  · exact posts_submitQuestion p data
  · exact fun round => posts_proofQuestion p round data
  · exact fun m n => roundQuestion_inj

-- The round is asked for again behind four replies, the proof not behind its refusal.
example :
    let s := Provider.prove ⟨.standard, .standard⟩ (fun _ => 0) (.blockHeight .btc 5 20)
      [.answer 200 (some (submitReply true (some 1)).compact), .dropped, .hung, .answer 503 none,
       .answer 200 (some (roundReply 1 false).compact),
       .answer 201 (some (roundReply 1 true).compact), .answer 404 (some "gone"), .dropped]
    s.questions.map (·.method) = ["POST", "GET", "GET", "GET", "GET", "GET", "POST"] ∧
      s.result = some (.error (.oracleRefused 404 "gone")) ∧ s.replies = [.dropped] := by
  decide +kernel

end Provider

end Attestation
