import Mathlib
import Attestation.Proofs.Environment.Proved
import Attestation.Proofs.Environment.Runs
import Attestation.Proofs.Flow.Protocol

/-!
Flows at a network in memory. Their exchanges are those of the protocol (`trace_after`), and once a
flow has submitted its request it leaves the network alone (`run_silent`). Main statement: the
protocol, for every oracle network and every ledger, and what a flow leaves behind.
-/

namespace Attestation

/-- The flow of a claim that is located on a ledger. -/
def Claim.flow (l : Ledger) (salt : String) (claim : Claim) : Flow :=
  match claim.request l salt with
  | .ok request => .submitting request
  | .error f => .ended (.error f)

namespace Environment

variable {e : Environment} {t : Task} {claim : Claim} {request : Request} {f : Flow}
  {fault : Fault} {xs : List Exchange} {place : ℕ}

lemma trace_step (e : Environment) (h : Flow.Trace f xs t.flow) :
    ∃ xs, Flow.Trace f xs (e.step t).1.flow := by
  have hs := stepped_step e t
  generalize e.step t = x at hs ⊢
  cases hs with
  | closed hc => exact ⟨xs, h⟩
  | refused hc hf he =>
    rw [hf] at h
    exact ⟨_, h.snoc (.submit (.error _))⟩
  | rejected hc hf he hr =>
    rw [hf] at h
    exact ⟨_, h.snoc (.submit (.ok none))⟩
  | filed hc hf he hr =>
    rw [hf] at h
    exact ⟨_, h.snoc (.submit (.ok (some _)))⟩
  | asleep hc hf hw => exact ⟨xs, h⟩
  | awake hc hf hw =>
    rw [hf] at h
    exact ⟨_, h.snoc (.wait _)⟩
  | fetched hc hf =>
    rw [hf] at h
    exact ⟨_, h.snoc (.obtain _)⟩
  | idle hc hf => exact ⟨xs, h⟩

lemma trace_after (e : Environment) (claim : Claim) (events : List Event) : ∃ t xs,
    ((e.apply (.launch claim)).after events).tasks[e.tasks.length]? = some t ∧
      Flow.Trace (claim.flow e.chain.ledger e.settings.salt) xs t.flow := by
  obtain ⟨t, ht, xs, hxs⟩ := task_after
    (P := fun t => ∃ xs, Flow.Trace (claim.flow e.chain.ledger e.settings.salt) xs t.flow)
    (fun e t ⟨_, h⟩ => trace_step e h) (task_launch e claim) ⟨[], .nil⟩ events
  exact ⟨t, xs, ht, hxs⟩

/-- A flow that has nothing to submit, and no round to close. -/
structure Silent (t : Task) : Prop where
  closing : t.closing = false
  flow : ∀ request, t.flow ≠ .submitting request

lemma silent_of_ended {result : Except Fault Outcome} (hc : t.closing = false)
    (hf : t.flow = .ended result) : Silent t :=
  ⟨hc, fun request h => by rw [hf] at h; cases h⟩

lemma Silent.step (h : Silent t) (e : Environment) :
    Silent (e.step t).1 ∧ (e.step t).2 = e.network := by
  have hs := stepped_step e t
  generalize e.step t = x at hs ⊢
  cases hs with
  | closed hc => rw [h.closing] at hc; cases hc
  | refused hc hf he => exact absurd hf (h.flow _)
  | rejected hc hf he hr => exact absurd hf (h.flow _)
  | filed hc hf he hr => exact absurd hf (h.flow _)
  | asleep hc hf hw => exact ⟨h, rfl⟩
  | @awake request id ending hc hf hw =>
    refine ⟨⟨hc, fun r hr => ?_⟩, rfl⟩
    simp only [Flow.afterWait] at hr
    split at hr <;> cases hr
  | fetched hc hf => exact ⟨silent_of_ended hc rfl, rfl⟩
  | idle hc hf => exact ⟨h, rfl⟩

lemma Silent.run (h : Silent t) (k : ℕ) (e : Environment) :
    Silent (run k e t).1 ∧ (run k e t).2 = e.network := by
  induction k generalizing e t with
  | zero => exact ⟨h, rfl⟩
  | succ k ih =>
    obtain ⟨hs, hn⟩ := h.step e
    rw [run_succ, hn]
    exact ih hs e

lemma Silent.apply_step (h : Silent t) (ht : e.tasks[place]? = some t) :
    ∃ t', Silent t' ∧ e.apply (.step place) = { e with tasks := e.tasks.set place t' } := by
  obtain ⟨hs, hn⟩ := h.step e
  refine ⟨_, hs, ?_⟩
  rw [apply_step_eq ht, hn]

/-- What the submission of a request leaves behind. -/
def submitted (e : Environment) (request : Request) : Environment :=
  { e with
    network := match e.network.submit e.chain request with
      | .ok (_, network) => network
      | .error _ => e.network }

section Submitted

variable {n : Network} {data : Bytes} {id : RequestId}

lemma submitted_of_error {error : Error} (he : Codec.encode request = .error error) :
    e.submitted request = e := by
  have h : e.network.submit e.chain request = .error error := by
    rw [Network.submit, Network.file, he]
    rfl
  rw [submitted, h]

lemma submitted_of_rejecting (he : Codec.encode request = .ok data)
    (hr : e.network.rejecting = true) : e.submitted request = e := by
  have h : e.network.submit e.chain request = .ok (none, e.network) := by
    rw [Network.submit, Network.file_of_encode he, hr]
    rfl
  rw [submitted, h]

lemma submitted_of_filed (he : Codec.encode request = .ok data)
    (hr : e.network.rejecting = false) : (e.submitted request).network =
      if e.network.mode = .auto then (e.network.put data).finalize e.chain
      else e.network.put data := by
  have h : e.network.submit e.chain request = .ok (some ⟨e.network.current, data⟩,
      if e.network.mode = .auto then (e.network.put data).finalize e.chain
      else e.network.put data) := by
    rw [Network.submit, Network.file_of_encode he, hr]
    simp only [Bool.false_eq_true, if_false, Except.ok_bind, Option.isSome_some, true_and]
    rfl
  rw [submitted, h]

end Submitted

lemma run_add (j k : ℕ) (e : Environment) (t : Task) :
    run (j + k) e t = run k { e with network := (run j e t).2 } (run j e t).1 := by
  induction j generalizing e t with
  | zero => rw [Nat.zero_add, run]
  | succ j ih =>
    rw [Nat.add_right_comm, run_succ, run_succ, ih]

lemma run_two (e : Environment) (t : Task) :
    run 2 e t = { e with network := (e.step t).2 }.step (e.step t).1 :=
  rfl

-- The first step files the request, and the second one closes its round.
lemma run_submitting (hc : t.closing = false) (hf : t.flow = .submitting request) :
    Silent (run 2 e t).1 ∧ (run 2 e t).2 = (e.submitted request).network := by
  have hs := stepped_step e t
  rw [run_two]
  generalize e.step t = x at hs ⊢
  cases hs with
  | closed h => rw [hc] at h; cases h
  | refused _ hf' he =>
    cases hf.symm.trans hf'
    rw [submitted_of_error he]
    refine Silent.step ?_ e
    exact silent_of_ended hc rfl
  | rejected _ hf' he hr =>
    cases hf.symm.trans hf'
    rw [submitted_of_rejecting he hr]
    refine Silent.step ?_ e
    exact silent_of_ended rfl rfl
  | @filed _ data _ hf' he hr =>
    cases hf.symm.trans hf'
    rw [submitted_of_filed he hr]
    cases hm : e.network.mode with
    | manual =>
      have hsilent : Silent ⟨.waiting request ⟨e.network.current, data⟩, false, t.token,
          e.deadline⟩ := ⟨rfl, fun _ h => by cases h⟩
      exact hsilent.step { e with network := e.network.put data }
    | auto =>
      rw [step, if_pos rfl]
      exact ⟨⟨rfl, fun _ h => by cases h⟩, rfl⟩
  | asleep _ hf' hw => cases hf.symm.trans hf'
  | awake _ hf' hw => cases hf.symm.trans hf'
  | fetched _ hf' => cases hf.symm.trans hf'
  | idle _ hf' => cases hf.symm.trans hf'

lemma run_leaves (hc : t.closing = false) (hf : t.flow = .submitting request) (k : ℕ) :
    Silent (run (2 + k) e t).1 ∧ (run (2 + k) e t).2 = (e.submitted request).network := by
  obtain ⟨hsilent, hnetwork⟩ := run_submitting (e := e) hc hf
  rw [run_add, ← hnetwork]
  exact hsilent.run k { e with network := (run 2 e t).2 }

lemma after_leaves (ht : e.tasks[place]? = some t) (hc : t.closing = false)
    (hf : t.flow = .submitting request) (k : ℕ) : ∃ t', Silent t' ∧
      e.after (List.replicate (2 + k) (.step place)) =
        { e.submitted request with tasks := e.tasks.set place t' } := by
  obtain ⟨hsilent, hnetwork⟩ := run_leaves (e := e) hc hf k
  refine ⟨_, hsilent, ?_⟩
  rw [after_replicate_step _ ht, hnetwork]
  rfl

lemma prove_leaves (hr : claim.request e.chain.ledger e.settings.salt = .ok request) :
    (e.prove claim).2 = e.submitted request ∨
      ∃ milliseconds, (e.prove claim).2 = (e.submitted request).await milliseconds := by
  have hflow : (e.newTask claim).flow = .submitting request := by rw [newTask_of_request hr]
  obtain ⟨-, hnetwork⟩ := run_leaves (e := e) rfl hflow 2
  have hleft : { e with network := (run stepsToEnd e (e.newTask claim)).2 } =
      e.submitted request := by
    rw [stepsToEnd, hnetwork]
    rfl
  simp only [prove]
  split
  · exact .inl hleft
  · rw [hleft]
    exact .inr ⟨_, rfl⟩

lemma await_of_alone (h : e.tasks = []) (milliseconds : ℕ) :
    e.await milliseconds = { e with now := e.now + milliseconds } := by
  have hsettle (now : ℕ) : { e with now }.settle = { e with now } := by
    rw [settle_eq, h]
    rfl
  have hfirst : e.settle = e := hsettle e.now
  rw [await, hfirst, advance, hsettle]

lemma prove_leaves_alone (h : e.tasks = [])
    (hr : claim.request e.chain.ledger e.settings.salt = .ok request) :
    ∃ now, (e.prove claim).2 = { e.submitted request with now } := by
  rcases prove_leaves hr with hleft | ⟨milliseconds, hleft⟩
  · exact ⟨e.now, hleft⟩
  · have halone : (e.submitted request).tasks = [] := h
    exact ⟨_, hleft.trans (await_of_alone halone milliseconds)⟩

lemma step_cancelled {id : RequestId} (hc : t.closing = false)
    (hf : t.flow = .waiting request id) (ht : e.isCancelled t.token = true) :
    e.step t = ({ t with flow := .ended (.error .cancelled) }, e.network) := by
  have hw : e.waitEnd? t id.round = some .cancelled := by simp [waitEnd?, ht]
  rw [step, if_neg (by simp [hc]), hf]
  simp only [hw]
  rfl

end Environment

end Attestation
