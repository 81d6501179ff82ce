import Mathlib
import Attestation.Claim
import Attestation.Flow

/-!
What a flow asks an oracle network, whatever it gets for an answer. A flow moves from one exchange
to the next (`Trace`), and these are the exchanges of the protocol, one after the other
(`trace_iff_protocol`). With a scripted network they take place in time, and a wait ends in what
happens first (`Script.protocol_run`).
-/

namespace Attestation

/-- A question to an oracle network with what came of it. -/
inductive Exchange
  | submit (request : Request) (reply : Except Fault (Option RequestId))
  | wait (round : UInt64) (ending : WaitEnd)
  | obtain (round : UInt64) (data : Bytes) (reply : Except Fault ProofReply)

def Exchange.call : Exchange → Call
  | submit request _ => .submit request
  | wait round _ => .wait round
  | obtain round data _ => .obtain round data

namespace Flow

variable {request : Request} {id : RequestId} {f g h : Flow} {x : Exchange} {xs : List Exchange}

inductive Move : Flow → Exchange → Flow → Prop
  | submit {request : Request} (reply : Except Fault (Option RequestId)) :
    Move (submitting request) (.submit request reply) (afterSubmit request reply)
  | wait {request : Request} {id : RequestId} (ending : WaitEnd) :
    Move (waiting request id) (.wait id.round ending) (afterWait request id ending)
  | obtain {request : Request} {id : RequestId} (reply : Except Fault ProofReply) :
    Move (fetching request id) (.obtain id.round id.data reply) (afterObtain request id reply)

/-- How a flow goes on with any replies at all. -/
inductive Trace (f : Flow) : List Exchange → Flow → Prop
  | nil : Trace f [] f
  | snoc {xs : List Exchange} {g h : Flow} {x : Exchange} (ht : Trace f xs g) (hm : Move g x h) :
    Trace f (xs ++ [x]) h

/-- The exchanges of a flow for a request up to every stage, and all its ends. -/
inductive Protocol (request : Request) : List Exchange → Flow → Prop
  | begun : Protocol request [] (submitting request)
  | unsubmitted (f : Fault) :
    Protocol request [.submit request (.error f)] (ended (.error f))
  | rejected :
    Protocol request [.submit request (.ok none)] (ended (.ok (.notProved .submitted)))
  | submitted (id : RequestId) :
    Protocol request [.submit request (.ok (some id))] (waiting request id)
  | cancelled (id : RequestId) :
    Protocol request [.submit request (.ok (some id)), .wait id.round .cancelled]
      (ended (.error .cancelled))
  | timedOut (id : RequestId) :
    Protocol request [.submit request (.ok (some id)), .wait id.round .timedOut]
      (ended (.error (.finalizationTimeout id.round)))
  | unanswered (id : RequestId) (f : Fault) :
    Protocol request [.submit request (.ok (some id)), .wait id.round (.answered (.error f))]
      (ended (.error f))
  | finalized (id : RequestId) :
    Protocol request [.submit request (.ok (some id)), .wait id.round (.answered (.ok ()))]
      (fetching request id)
  | unfetched (id : RequestId) (f : Fault) :
    Protocol request [.submit request (.ok (some id)), .wait id.round (.answered (.ok ())),
      .obtain id.round id.data (.error f)] (ended (.error f))
  | proved (id : RequestId) (reply : ProofReply) (response : Response)
    (hfinalized : reply.finalized = true) (hresult : reply.result = some response)
    (hproof : response.hasProof = true) :
    Protocol request [.submit request (.ok (some id)), .wait id.round (.answered (.ok ())),
      .obtain id.round id.data (.ok reply)] (ended (.ok (.proved ⟨id, request, response⟩)))
  | notProved (id : RequestId) (reply : ProofReply)
    (hreply : ∀ response, reply.finalized = true → reply.result = some response →
      response.hasProof = false) :
    Protocol request [.submit request (.ok (some id)), .wait id.round (.answered (.ok ())),
      .obtain id.round id.data (.ok reply)] (ended (.ok (.notProved .fetched)))

lemma Move.call? (hm : Move f x g) : f.call? = some x.call := by
  cases hm <;> rfl

lemma outcome_of_proof (request : Request) (id : RequestId) {reply : ProofReply}
    {response : Response} (hfinalized : reply.finalized = true)
    (hresult : reply.result = some response) (hproof : response.hasProof = true) :
    outcome request id reply = .proved ⟨id, request, response⟩ := by
  simp [outcome, hfinalized, hresult, hproof]

lemma outcome_of_no_proof {reply : ProofReply} (hreply : ∀ response, reply.finalized = true →
    reply.result = some response → response.hasProof = false) :
    outcome request id reply = .notProved .fetched := by
  rw [outcome]
  split
  · next response hresult =>
    cases hfinalized : reply.finalized with
    | false => rfl
    | true => simp [hreply response hfinalized hresult]
  · rfl

lemma protocol_fetched (request : Request) (id : RequestId) (reply : Except Fault ProofReply) :
    Protocol request [.submit request (.ok (some id)), .wait id.round (.answered (.ok ())),
      .obtain id.round id.data reply] (afterObtain request id reply) := by
  cases reply with
  | error f => exact .unfetched id f
  | ok reply =>
    by_cases hp : ∃ response, reply.finalized = true ∧ reply.result = some response ∧
        response.hasProof = true
    · obtain ⟨response, hfinalized, hresult, hproof⟩ := hp
      have ho := outcome_of_proof request id hfinalized hresult hproof
      rw [afterObtain, Except.map, ho]
      exact .proved id reply response hfinalized hresult hproof
    · have hreply : ∀ response, reply.finalized = true → reply.result = some response →
          response.hasProof = false := by
        intro response hfinalized hresult
        exact Bool.eq_false_iff.mpr fun hproof => hp ⟨response, hfinalized, hresult, hproof⟩
      rw [afterObtain, Except.map, outcome_of_no_proof hreply]
      exact .notProved id reply hreply

lemma protocol_move (hp : Protocol request xs f) (hm : Move f x g) :
    Protocol request (xs ++ [x]) g := by
  cases hm with
  | submit reply =>
    cases hp
    rcases reply with f | _ | id
    · exact .unsubmitted f
    · exact .rejected
    · exact .submitted id
  | @wait _ id ending =>
    cases hp
    rcases ending with (f | ⟨⟩) | _ | _
    · exact .unanswered id f
    · exact .finalized id
    · exact .cancelled id
    · exact .timedOut id
  | @obtain _ id reply =>
    cases hp
    exact protocol_fetched request id reply

lemma trace_iff_protocol : Trace (submitting request) xs f ↔ Protocol request xs f := by
  constructor
  · intro ht
    induction ht with
    | nil => exact .begun
    | snoc ht hm ih => exact protocol_move ih hm
  · have hs (reply) : Trace (submitting request) [.submit request reply] _ :=
      Trace.nil.snoc (.submit reply)
    have hw (id : RequestId) (ending) : Trace (submitting request)
        [.submit request (.ok (some id)), .wait id.round ending] _ :=
      (hs (.ok (some id))).snoc (.wait ending)
    have ho (id : RequestId) (reply) : Trace (submitting request)
        [.submit request (.ok (some id)), .wait id.round (.answered (.ok ())),
          .obtain id.round id.data reply] (afterObtain request id reply) :=
      (hw id (.answered (.ok ()))).snoc (.obtain reply)
    intro hp
    cases hp with
    | begun => exact .nil
    | unsubmitted f => exact hs (.error f)
    | rejected => exact hs (.ok none)
    | submitted id => exact hs (.ok (some id))
    | cancelled id => exact hw id .cancelled
    | timedOut id => exact hw id .timedOut
    | unanswered id f => exact hw id (.answered (.error f))
    | finalized id => exact hw id (.answered (.ok ()))
    | unfetched id f => exact ho id (.error f)
    | proved id reply response hfinalized hresult hproof =>
      have h := ho id (.ok reply)
      rwa [afterObtain, Except.map, outcome_of_proof _ _ hfinalized hresult hproof] at h
    | notProved id reply hreply =>
      have h := ho id (.ok reply)
      rwa [afterObtain, Except.map, outcome_of_no_proof hreply] at h

lemma trace_ended {result : Except Fault Outcome} (ht : Trace (ended result) xs f) :
    xs = [] ∧ f = ended result := by
  induction ht with
  | nil => exact ⟨rfl, rfl⟩
  | snoc ht hm ih =>
    obtain ⟨-, rfl⟩ := ih
    cases hm

end Flow

namespace Script

variable {s : Script} {request : Request} {id : RequestId} {timeout cancelled : Option ℕ}
  {time : ℕ} {ending : WaitEnd} {result : Except Fault Outcome}

section Earlier

variable {α : Type} {a b : Option (ℕ × α)} {x : ℕ × α}

lemma of_earlier (h : earlier a b = some x) : a = some x ∨ b = some x := by
  cases a <;> cases b <;> simp only [earlier, reduceCtorEq, or_false, false_or] at h ⊢
  · exact h
  · exact h
  · split at h
    · exact .inr h
    · exact .inl h

lemma le_earlier_iff {m : ℕ} : (∀ y ∈ earlier a b, m ≤ y.1) ↔
    (∀ y ∈ a, m ≤ y.1) ∧ ∀ y ∈ b, m ≤ y.1 := by
  cases a <;> cases b <;> simp only [earlier, Option.mem_def, Option.some.injEq, forall_eq',
    reduceCtorEq, false_implies, implies_true, true_and, and_true]
  split <;> simp only [Option.some.injEq, forall_eq'] <;> omega

lemma earlier_eq_none_iff : earlier a b = none ↔ a = none ∧ b = none := by
  cases a <;> cases b <;> simp only [earlier, reduceCtorEq, and_false, false_and, and_self]
  split <;> simp

end Earlier

/-- A wait ends in something that happens then, and nothing has happened before. -/
structure Ends (s : Script) (timeout cancelled : Option ℕ) (time : ℕ) (ending : WaitEnd) :
    Prop where
  happens : match ending with
    | .answered reply => s.wait = some (time, reply)
    | .timedOut => timeout = some time
    | .cancelled => cancelled = some time
  reply : ∀ w ∈ s.wait, time ≤ w.1
  timeout : ∀ t ∈ timeout, time ≤ t
  cancellation : ∀ t ∈ cancelled, time ≤ t
  /-- Who is cancelled before it waits does not get to know of a reply. -/
  before : cancelled = some 0 → ending = .cancelled

lemma ends_of_waitEnd (h : s.waitEnd timeout cancelled = some (time, ending)) :
    s.Ends timeout cancelled time ending := by
  rw [waitEnd] at h
  split at h
  · next hc =>
    cases h
    exact ⟨hc, fun _ _ => Nat.zero_le _, fun _ _ => Nat.zero_le _, fun _ _ => Nat.zero_le _,
      fun _ => rfl⟩
  next hc =>
  have hle := (le_earlier_iff (m := time)).mp (by rw [h]; simp)
  rw [le_earlier_iff] at hle
  obtain ⟨hreply, htimeout, hcancelled⟩ := hle
  simp only [Option.mem_def, Option.map_eq_some_iff, forall_exists_index, and_imp]
    at hreply htimeout hcancelled
  refine ⟨?_, fun w hw => hreply _ w hw rfl, fun t ht => htimeout _ t ht rfl,
    fun t ht => hcancelled _ t ht rfl, fun h => absurd h hc⟩
  rcases of_earlier h with h | h
  · obtain ⟨w, hw, he⟩ := Option.map_eq_some_iff.mp h
    cases he
    exact hw
  rcases of_earlier h with h | h
  · obtain ⟨t, ht, he⟩ := Option.map_eq_some_iff.mp h
    cases he
    exact ht
  · obtain ⟨t, ht, he⟩ := Option.map_eq_some_iff.mp h
    cases he
    exact ht

lemma waitEnd_eq_none_iff :
    s.waitEnd timeout cancelled = none ↔ s.wait = none ∧ timeout = none ∧ cancelled = none := by
  rw [waitEnd]
  split
  · next hc => simp [hc]
  · simp [earlier_eq_none_iff]

/-- An exchange with a scripted network, of which a wait has ended at a time. -/
def Gives (s : Script) (timeout cancelled : Option ℕ) (time : ℕ) : Exchange → Prop
  | .submit _ reply => reply = s.submit
  | .wait _ ending => s.Ends timeout cancelled time ending
  | .obtain _ _ reply => reply = s.obtain

lemma run_of_waiting (hs : s.submit = .ok (some id))
    (hw : s.waitEnd timeout cancelled = none) :
    s.run request timeout cancelled = ⟨[.submit request, .wait id.round], none⟩ := by
  obtain ⟨-, -, rfl⟩ := waitEnd_eq_none_iff.mp hw
  simp [run, follow, hs, hw]

lemma run_of_failure {f : Fault} (hs : s.submit = .ok (some id))
    (hw : s.waitEnd timeout cancelled = some (time, ending))
    (hf : ending.failure? id.round = some f) : s.run request timeout cancelled =
      ⟨if cancelled = some 0 then [.submit request] else [.submit request, .wait id.round],
        some (time, .error f)⟩ := by
  simp [run, follow, hs, hw, hf]

lemma run_of_answer (hs : s.submit = .ok (some id))
    (hw : s.waitEnd timeout cancelled = some (time, .answered (.ok ()))) :
    s.run request timeout cancelled =
      ⟨[.submit request, .wait id.round, .obtain id.round id.data],
        some (time, s.obtain.map (Flow.outcome request id))⟩ := by
  have hc : cancelled ≠ some 0 := fun h => by cases (ends_of_waitEnd hw).before h
  simp [run, follow, hs, hw, hc, WaitEnd.failure?]

lemma protocol_run (h : (s.run request timeout cancelled).result = some (time, result)) :
    ∃ xs, Flow.Protocol request xs (.ended result) ∧
      (∀ x ∈ xs, s.Gives timeout cancelled time x) ∧
      (s.run request timeout cancelled).calls =
        (if cancelled = some 0 then xs.take 1 else xs).map Exchange.call := by
  cases hs : s.submit with
  | error f =>
    rw [run, follow, hs] at h ⊢
    cases h
    exact ⟨_, .unsubmitted f, by simp [Gives, hs], by simp [Exchange.call]⟩
  | ok reply =>
  cases reply with
  | none =>
    rw [run, follow, hs] at h ⊢
    cases h
    exact ⟨_, .rejected, by simp [Gives, hs], by simp [Exchange.call]⟩
  | some id =>
  cases hw : s.waitEnd timeout cancelled with
  | none =>
    rw [run_of_waiting hs hw] at h
    cases h
  | some x =>
  obtain ⟨time', ending⟩ := x
  have hends := ends_of_waitEnd hw
  have hasked : Flow.Trace (.submitting request)
      [.submit request (.ok (some id)), .wait id.round ending] (.afterWait request id ending) :=
    (Flow.Trace.nil.snoc (.submit _)).snoc (.wait ending)
  cases hf : ending.failure? id.round with
  | some f =>
    rw [run_of_failure hs hw hf] at h ⊢
    cases h
    rw [Flow.afterWait, hf] at hasked
    refine ⟨_, Flow.trace_iff_protocol.mp hasked, by simp [Gives, hs, hends], ?_⟩
    split <;> rfl
  | none =>
    obtain rfl : ending = .answered (.ok ()) := by
      rcases ending with (f | ⟨⟩) | _ | _
      · cases hf
      · rfl
      · cases hf
      · cases hf
    have hc : cancelled ≠ some 0 := fun h => by cases hends.before h
    rw [run_of_answer hs hw] at h ⊢
    cases h
    refine ⟨_, Flow.protocol_fetched request id s.obtain, by simp [Gives, hs, hends], ?_⟩
    rw [if_neg hc]
    rfl

example : (Script.mk (.ok (some ⟨7, [1]⟩)) (some (50, .ok ())) (.ok .pending)).run
    (.blockHeight .btc 5 20) (some 30) (some 40) =
      ⟨[.submit (.blockHeight .btc 5 20), .wait 7], some (30, .error (.finalizationTimeout 7))⟩ :=
  rfl

lemma of_result_run_eq_none (h : (s.run request timeout cancelled).result = none) :
    ∃ id, s.submit = .ok (some id) ∧ s.wait = none ∧ timeout = none ∧ cancelled = none ∧
      (s.run request timeout cancelled).calls = [.submit request, .wait id.round] := by
  cases hs : s.submit with
  | error f => simp [run, follow, hs] at h
  | ok reply =>
  cases reply with
  | none => simp [run, follow, hs] at h
  | some id =>
  cases hw : s.waitEnd timeout cancelled with
  | none =>
    obtain ⟨hwait, htimeout, hcancelled⟩ := waitEnd_eq_none_iff.mp hw
    rw [run_of_waiting hs hw]
    exact ⟨id, rfl, hwait, htimeout, hcancelled, rfl⟩
  | some x => cases hf : x.2.failure? id.round <;> simp [run, follow, hs, hw, hf] at h

end Script

end Attestation
