import Mathlib
import Attestation.Proofs.Flow.Protocol
import Attestation.Proofs.Response.RoundTrip
import Attestation.Provider

/-!
Flows at a provider behind an HTTP server. Whatever the server replies, a session that comes to its
end is a flow (`trace_prove`), and what it fetches is read from one of the replies. A server can
have any reply fetched by writing it (`proof_write`), and any other reply read
(`readSubmitted?_submitReply`, `readRound?_roundReply`).
-/

namespace Attestation

namespace Session

variable {α β : Type} {s : Session α} {next : α → List HttpReply → Session β}

lemma andThen_of_error {e : Fault} (h : s.result = some (.error e)) :
    (s.andThen next).result = some (.error e) := by
  rw [andThen, h]

lemma andThen_of_ok {a : α} (h : s.result = some (.ok a)) :
    (s.andThen next).result = (next a s.replies).result := by
  rw [andThen, h]

lemma exists_of_andThen {result : Except Fault β} (h : (s.andThen next).result = some result) :
    ∃ r, s.result = some r := by
  cases hs : s.result with
  | none => rw [andThen, hs] at h; cases h
  | some r => exact ⟨r, rfl⟩

end Session

namespace Provider

variable {p : Provider} {draw : UInt32 → Float} {request : Request} {replies : List HttpReply}
  {round : UInt64} {data : Bytes} {result : Except Fault Outcome}

lemma replies_submit (p : Provider) (request : Request) (replies : List HttpReply) :
    (p.submit request replies).replies ⊆ replies := by
  rw [submit]
  split
  · exact List.Subset.refl replies
  · cases replies with
    | nil => exact List.nil_subset _
    | cons reply replies => exact List.subset_cons_self reply replies

lemma replies_awaitRound (p : Provider) (draw : UInt32 → Float) (round : UInt64)
    (replies : List HttpReply) : (p.awaitRound draw round replies).replies ⊆ replies :=
  List.drop_subset _ replies

lemma exists_reply_of_obtain {reply : Except Fault ProofReply}
    (h : (p.obtain round data replies).result = some reply) :
    ∃ r ∈ replies, p.proof r = reply := by
  cases replies with
  | nil => cases h
  | cons r replies => exact ⟨r, List.mem_cons_self, Option.some.inj h⟩

theorem trace_prove (h : (p.prove draw request replies).result = some result) :
    ∃ xs, Flow.Trace (.submitting request) xs (.ended result) ∧
      ∀ round data reply, .obtain round data reply ∈ xs → ∃ r ∈ replies, p.proof r = reply := by
  rw [prove] at h
  obtain ⟨submitted, hs⟩ := Session.exists_of_andThen h
  have ht : Flow.Trace (.submitting request) [.submit request submitted]
      (.afterSubmit request submitted) := Flow.Trace.nil.snoc (.submit submitted)
  cases submitted with
  | error e =>
    rw [Session.andThen_of_error hs] at h
    cases h
    exact ⟨_, ht, by simp⟩
  | ok id =>
  rw [Session.andThen_of_ok hs] at h
  cases id with
  | none =>
    cases h
    exact ⟨_, ht, by simp⟩
  | some id =>
  obtain ⟨waited, hw⟩ := Session.exists_of_andThen h
  have ht := ht.snoc (.wait (.answered waited))
  cases waited with
  | error e =>
    rw [Session.andThen_of_error hw] at h
    cases h
    exact ⟨_, ht, by simp⟩
  | ok =>
  rw [Session.andThen_of_ok hw] at h
  obtain ⟨fetched, hf⟩ := Session.exists_of_andThen h
  have ht := ht.snoc (.obtain fetched)
  have hend : Flow.afterObtain request id fetched = .ended result := by
    cases fetched with
    | error e =>
      rw [Session.andThen_of_error hf] at h
      cases h
      rfl
    | ok reply =>
      rw [Session.andThen_of_ok hf] at h
      cases h
      rfl
  obtain ⟨r, hr, hproof⟩ := exists_reply_of_obtain hf
  have hmem : r ∈ replies := replies_submit p request replies (replies_awaitRound p draw _ _ hr)
  refine ⟨_, hend ▸ ht, ?_⟩
  intro round data reply hx
  simp only [List.nil_append, List.cons_append, List.mem_cons, reduceCtorEq, Exchange.obtain.injEq,
    List.not_mem_nil, or_false, false_or] at hx
  exact ⟨r, hmem, hx.2.2 ▸ hproof⟩

/-- Three replies are enough: one that accepts the request, one that calls its round final, and one
to the question for the proof. -/
lemma result_prove (draw : UInt32 → Float) (replies : List HttpReply) {id : RequestId}
    {accepted final fetched : HttpReply} {reply : ProofReply}
    (he : Codec.encode request = .ok data) (hs : p.submitted data accepted = .ok (some id))
    (hw : p.finalized id.round final = .ok true) (hf : p.proof fetched = .ok reply) :
    (p.prove draw request (accepted :: final :: fetched :: replies)).result =
      some (.ok (Flow.outcome request id reply)) := by
  have hsubmit : p.submit request (accepted :: final :: fetched :: replies) =
      ⟨[p.submitQuestion data], some (.ok (some id)), final :: fetched :: replies, []⟩ := by
    rw [submit, he, ← hs]
    rfl
  have hwait : p.awaitRound draw id.round (final :: fetched :: replies) =
      ⟨[p.roundQuestion id.round], some (.ok ()), fetched :: replies, []⟩ := by
    simp [awaitRound, Poll.wait, Poll.waitAfter, hw, Poll.verdict?]
  have hobtain : (p.obtain id.round id.data (fetched :: replies)).result = some (.ok reply) :=
    congrArg some hf
  rw [prove, Session.andThen_of_ok (congrArg Session.result hsubmit), hsubmit]
  simp only
  rw [Session.andThen_of_ok (congrArg Session.result hwait), hwait]
  exact Session.andThen_of_ok hobtain

lemma value_of_read {α : Type} {read : String → Option α} {text : String} {a : α}
    (h : read text = some a) (timeout : Duration) :
    HttpReply.value timeout read (.answer 200 (some text)) = .ok a := by
  have hr : (HttpReply.received 200 (some text)).bind read = some a := h
  rw [HttpReply.value, if_pos (by decide)]
  simp only [hr]

lemma fits_reply (reply : ProofReply) : ProofReply.shape.Fits 127 reply.toJson := by
  apply Json.Shape.Fits.record
  · intro m hm shape hs
    simp only [List.mem_cons, List.not_mem_nil, or_false] at hm
    rcases hm with rfl | rfl
    · obtain rfl := Option.some.inj hs
      exact .value (.bool reply.finalized)
    · obtain rfl := Option.some.inj hs
      cases reply.result with
      | none => exact .absent
      | some response =>
        exact .present (response.fits_of_perm (List.forall_mem_nil _) (List.forall_mem_nil _)
          response.perm_members)
  · intro m hm hs
    simp only [List.mem_cons, List.not_mem_nil, or_false] at hm
    rcases hm with rfl | rfl <;> cases hs

lemma readProof?_write (reply : ProofReply) :
    readProof? (ProofReply.format.write reply) = some reply := by
  have hresult : Json.option? Response.ofJson? (Json.option Response.toJson reply.result) =
      some reply.result :=
    Json.option?_option Response.ofJson?_toJson (fun _ => nofun) reply.result
  let ms : List (String × Json) :=
    [("finalized", .bool reply.finalized), ("result", Json.option Response.toJson reply.result)]
  have hf : reply.toJson.fields? ProofReply.names 1 = some (ms.map fun m => some m.2) :=
    Json.fields?_of_perm ProofReply.names rfl (by decide) (List.forall_mem_nil _)
      (show ms.Perm (ms ++ []) by rw [List.append_nil]) 1
  rw [readProof?, ProofReply.format, Json.Format.write, Json.read?_compact (fits_reply reply)]
  simp only [Option.bind_eq_bind, Option.bind_some, hf, ms, List.map_cons, List.map_nil, Json.need,
    Json.orElse, Json.bool?_bool, hresult]
  rfl

/-- A reply to the question for a proof is read as it is written. -/
theorem proof_write (p : Provider) (reply : ProofReply) :
    p.proof (.answer 200 (some (ProofReply.format.write reply))) = .ok reply :=
  value_of_read (readProof?_write reply) _

/-- A reply to a request, as it is written. -/
def submitReply (accepted : Bool) (round : Option UInt64) : Json :=
  .object (("status", .string (if accepted then "OK" else "REJECTED")) ::
    round.toList.map fun n => ("round", .nat n.toNat))

/-- A reply to the question for a round, as it is written. -/
def roundReply (round : UInt64) (finalized : Bool) : Json :=
  .object [("round", .nat round.toNat), ("finalized", .bool finalized)]

lemma readSubmitted?_submitReply (accepted : Bool) (round : Option UInt64) :
    readSubmitted? (submitReply accepted round).compact = some (accepted, round) := by
  have hread : Json.read? (.plain ["status", "round"]) (submitReply accepted round).compact =
      some (submitReply accepted round) := by
    apply Json.read?_plain
    · cases round <;> simp
    · rw [List.forall_mem_cons]
      refine ⟨.string _, List.forall_mem_map.mpr fun n _ => Response.legible_uint64 n⟩
  have hfields : (submitReply accepted round).fields? ["status", "round"] 1 =
      some [some (.string (if accepted then "OK" else "REJECTED")),
        round.map fun n => .nat n.toNat] := by
    cases round <;> rfl
  have hround : Json.orElse (Json.option? Json.uint64?) none (round.map fun n => .nat n.toNat) =
      some round := by
    cases round with
    | none => rfl
    | some n => exact congrArg (Option.map some) (Json.uint64?_nat n)
  simp only [readSubmitted?, hread, hfields, Option.bind_eq_bind, Option.bind_some, Json.need,
    hround]
  cases accepted <;> rfl

lemma readRound?_roundReply (round : UInt64) (finalized : Bool) :
    readRound? (roundReply round finalized).compact = some (round, finalized) := by
  have hread : Json.read? (.plain ["round", "finalized"]) (roundReply round finalized).compact =
      some (roundReply round finalized) := by
    apply Json.read?_plain
    · simp
    · simp only [List.forall_mem_cons]
      exact ⟨Response.legible_uint64 round, .bool finalized, List.forall_mem_nil _⟩
  have hfields : (roundReply round finalized).fields? ["round", "finalized"] 2 =
      some [some (.nat round.toNat), some (.bool finalized)] := rfl
  simp only [readRound?, hread, hfields, Option.bind_eq_bind, Option.bind_some, Json.need,
    Json.uint64?_nat, Json.bool?_bool]
  rfl

end Provider

end Attestation
