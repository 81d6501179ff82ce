import Mathlib
import Attestation.Environment.History
import Attestation.Proofs.Network.Rounds

/-!
What one step of a flow can do (`Stepped`), and what a history makes of the flow in a place: nothing
but steps of that flow changes it (`task_after`). A flow that runs by itself runs through a history
of such steps (`after_replicate_step`).
-/

namespace Attestation.Environment

variable {e : Environment} {t : Task} {n : Network} {event : Event} {events : List Event}
  {place : ℕ} {claim : Claim} {result : Except Fault Outcome}

/-- What a step makes of a task and of the network. -/
inductive Stepped (e : Environment) (t : Task) : Task × Network → Prop
  | closed (hc : t.closing = true) :
    Stepped e t ({ t with closing := false }, e.network.finalize e.chain)
  | refused {request : Request} {f : Error} (hc : t.closing = false)
    (hf : t.flow = .submitting request) (he : Codec.encode request = .error f) :
    Stepped e t ({ t with flow := .ended (.error (.attestation f)) }, e.network)
  | rejected {request : Request} {data : Bytes} (hc : t.closing = false)
    (hf : t.flow = .submitting request) (he : Codec.encode request = .ok data)
    (hr : e.network.rejecting = true) :
    Stepped e t ({ t with
      flow := .ended (.ok (.notProved .submitted))
      closing := false
      deadline := e.deadline }, e.network)
  | filed {request : Request} {data : Bytes} (hc : t.closing = false)
    (hf : t.flow = .submitting request) (he : Codec.encode request = .ok data)
    (hr : e.network.rejecting = false) :
    Stepped e t ({ t with
      flow := .waiting request ⟨e.network.current, data⟩
      closing := e.network.mode == .auto
      deadline := e.deadline }, e.network.put data)
  | asleep {request : Request} {id : RequestId} (hc : t.closing = false)
    (hf : t.flow = .waiting request id) (hw : e.waitEnd? t id.round = none) :
    Stepped e t (t, e.network)
  | awake {request : Request} {id : RequestId} {ending : WaitEnd} (hc : t.closing = false)
    (hf : t.flow = .waiting request id) (hw : e.waitEnd? t id.round = some ending) :
    Stepped e t ({ t with flow := .afterWait request id ending }, e.network)
  | fetched {request : Request} {id : RequestId} (hc : t.closing = false)
    (hf : t.flow = .fetching request id) :
    Stepped e t ({ t with
      flow := .afterObtain request id (.ok (e.network.obtain id.round id.data)) }, e.network)
  | idle {result : Except Fault Outcome} (hc : t.closing = false) (hf : t.flow = .ended result) :
    Stepped e t (t, e.network)

lemma stepped_step (e : Environment) (t : Task) : Stepped e t (e.step t) := by
  rw [step]
  split
  · next hc => exact .closed hc
  next hc =>
  rw [Bool.not_eq_true] at hc
  cases hf : t.flow with
  | submitting request =>
    cases he : Codec.encode request with
    | error f =>
      have h : e.network.file request = .error f := by rw [Network.file, he]; rfl
      simp only [h]
      exact .refused hc hf he
    | ok data =>
      have h := Network.file_of_encode (n := e.network) he
      cases hr : e.network.rejecting with
      | true =>
        rw [hr, if_pos rfl] at h
        simp only [h]
        exact .rejected hc hf he hr
      | false =>
        rw [hr, if_neg (by simp)] at h
        simp only [h]
        exact .filed hc hf he hr
  | waiting request id =>
    cases hw : e.waitEnd? t id.round with
    | some ending =>
      simp only [hw]
      exact .awake hc hf hw
    | none =>
      simp only [hw]
      exact .asleep hc hf hw
  | fetching request id => exact .fetched hc hf
  | ended result => exact .idle hc hf

/-- What an event makes of the network. -/
inductive Turn (e : Environment) : Network → Prop
  | switched (rejecting withholding : Bool) : Turn e { e.network with rejecting, withholding }
  | filed (data : Bytes) : Turn e (e.network.put data)
  | closed : Turn e (e.network.finalize e.chain)

namespace Turn

lemma idle (e : Environment) : Turn e e.network :=
  .switched e.network.rejecting e.network.withholding

lemma later (h : Turn e n) : e.network.Later n := by
  cases h with
  | switched rejecting withholding => exact (Network.Change.switch rejecting withholding).later
  | filed data => exact (Network.Change.file data).later
  | closed => exact (Network.Change.finalize e.chain).later

end Turn

namespace Stepped

variable {x : Task × Network}

lemma network_cases (h : Stepped e t x) : x.2 = e.network ∨
    (∃ data, x.2 = e.network.put data) ∨ x.2 = e.network.finalize e.chain := by
  cases h with
  | closed hc => exact .inr (.inr rfl)
  | filed hc hf he hr => exact .inr (.inl ⟨_, rfl⟩)
  | refused hc hf he => exact .inl rfl
  | rejected hc hf he hr => exact .inl rfl
  | asleep hc hf hw => exact .inl rfl
  | awake hc hf hw => exact .inl rfl
  | fetched hc hf => exact .inl rfl
  | idle hc hf => exact .inl rfl

lemma turn (h : Stepped e t x) : Turn e x.2 := by
  rcases h.network_cases with hn | ⟨data, hn⟩ | hn
  · exact hn ▸ .idle e
  · exact hn ▸ .filed data
  · exact hn ▸ .closed

lemma token (h : Stepped e t x) : x.1.token = t.token := by
  cases h <;> rfl

end Stepped

def Event.steps (place : ℕ) : Event → Bool
  | .step p => p == place
  | _ => false

lemma Event.eq_step (h : event.steps place = true) : event = .step place := by
  cases event with
  | step p => exact congrArg step (by simpa [steps] using h)
  | _ => cases h

def resultAt? (e : Environment) (place : ℕ) : Option (Except Fault Outcome) :=
  (e.tasks[place]?).bind Task.result?

lemma apply_step_eq (ht : e.tasks[place]? = some t) : e.apply (.step place) =
    { e with network := (e.step t).2, tasks := e.tasks.set place (e.step t).1 } := by
  rw [apply, stepAt, ht]

lemma task_apply_step (ht : e.tasks[place]? = some t) :
    (e.apply (.step place)).tasks[place]? = some (e.step t).1 := by
  obtain ⟨hlt, -⟩ := List.getElem?_eq_some_iff.mp ht
  rw [apply_step_eq ht]
  exact List.getElem?_set_self hlt

lemma task_apply (ht : e.tasks[place]? = some t) (h : event.steps place = false) :
    (e.apply event).tasks[place]? = some t := by
  cases event with
  | step p =>
    have hne : p ≠ place := by simpa [Event.steps] using h
    cases hp : e.tasks[p]? with
    | none => rwa [apply, stepAt, hp]
    | some other =>
      rw [apply_step_eq hp, ← ht]
      exact List.getElem?_set_ne hne
  | launch claim =>
    obtain ⟨hlt, -⟩ := List.getElem?_eq_some_iff.mp ht
    exact (List.getElem?_append_left hlt).trans ht
  | chain event => exact ht
  | finalize => exact ht
  | setRejecting on => exact ht
  | setWithholding on => exact ht
  | cancel => exact ht
  | newToken => exact ht
  | pass milliseconds => exact ht

lemma task_launch (e : Environment) (claim : Claim) :
    (e.apply (.launch claim)).tasks[e.tasks.length]? = some (e.newTask claim) :=
  List.getElem?_concat_length

lemma turn_apply (e : Environment) (event : Event) : Turn e (e.apply event).network := by
  cases event with
  | step p =>
    cases hp : e.tasks[p]? with
    | none =>
      rw [apply, stepAt, hp]
      exact .idle e
    | some t =>
      rw [apply_step_eq hp]
      exact (stepped_step e t).turn
  | finalize => exact .closed
  | setRejecting on => exact .switched on e.network.withholding
  | setWithholding on => exact .switched e.network.rejecting on
  | launch claim => exact .idle e
  | chain event => exact .idle e
  | cancel => exact .idle e
  | newToken => exact .idle e
  | pass milliseconds => exact .idle e

/-- What steps keep of a flow, a history keeps of it. -/
lemma task_after {P : Task → Prop} (keep : ∀ (e : Environment) t, P t → P (e.step t).1)
    (ht : e.tasks[place]? = some t) (hp : P t) (events : List Event) :
    ∃ t', (e.after events).tasks[place]? = some t' ∧ P t' := by
  induction events generalizing e t with
  | nil => exact ⟨t, ht, hp⟩
  | cons event events ih =>
    cases hs : event.steps place with
    | false => exact ih (task_apply ht hs) hp
    | true =>
      obtain rfl := Event.eq_step hs
      exact ih (task_apply_step ht) (keep e t hp)

lemma run_succ (k : ℕ) (e : Environment) (t : Task) :
    run (k + 1) e t = run k { e with network := (e.step t).2 } (e.step t).1 :=
  rfl

-- A step looks at no other task.
lemma run_tasks (k : ℕ) (e : Environment) (tasks : List Task) (t : Task) :
    run k { e with tasks } t = run k e t := by
  induction k generalizing e t with
  | zero => rfl
  | succ k ih => exact ih { e with network := (e.step t).2 } (e.step t).1

lemma after_replicate_step (k : ℕ) (ht : e.tasks[place]? = some t) :
    e.after (List.replicate k (.step place)) =
      { e with network := (run k e t).2, tasks := e.tasks.set place (run k e t).1 } := by
  induction k generalizing e t with
  | zero =>
    obtain ⟨hlt, rfl⟩ := List.getElem?_eq_some_iff.mp ht
    rw [run, List.set_getElem_self hlt]
    rfl
  | succ k ih =>
    change (e.apply (.step place)).after (List.replicate k (.step place)) = _
    have hrun : run k (e.apply (.step place)) (e.step t).1 = run (k + 1) e t := by
      rw [apply_step_eq ht]
      exact run_tasks k { e with network := (e.step t).2 } _ _
    rw [ih (task_apply_step ht), hrun, apply_step_eq ht, List.set_set]

lemma prove_eq_of_result (h : (run stepsToEnd e (e.newTask claim)).1.result? = some result) :
    e.prove claim =
      (some result, { e with network := (run stepsToEnd e (e.newTask claim)).2 }) := by
  simp only [prove, h]

section Ended

variable (h : (e.newTask claim).flow = .ended result)

lemma newTask_of_error {f : Fault} (hr : claim.request e.chain.ledger e.settings.salt = .error f) :
    (e.newTask claim).flow = .ended (.error f) := by
  rw [newTask, hr]

-- A flow that has ended takes no steps.
lemma step_ended (hc : t.closing = false) (hf : t.flow = .ended result) :
    e.step t = (t, e.network) := by
  rw [step, if_neg (by simp [hc]), hf]

lemma run_ended (k : ℕ) (hc : t.closing = false) (hf : t.flow = .ended result) :
    run k e t = (t, e.network) := by
  induction k with
  | zero => rfl
  | succ k ih => rw [run_succ, step_ended hc hf, ih]

include h

lemma prove_of_ended : e.prove claim = (some result, e) := by
  have hrun : run stepsToEnd e (e.newTask claim) = (e.newTask claim, e.network) := run_ended _ rfl h
  have hr : (run stepsToEnd e (e.newTask claim)).1.result? = some result := by
    rw [hrun, Task.result?, h]
    rfl
  rw [prove_eq_of_result hr, hrun]

lemma resultAt?_of_ended (events : List Event) :
    ((e.apply (.launch claim)).after events).resultAt? e.tasks.length = some result ∧
      ((e.apply (.launch claim)).after events).apply (.step e.tasks.length) =
        (e.apply (.launch claim)).after events := by
  have keep (e : Environment) (t : Task) (ht : t.flow = .ended result ∧ t.closing = false) :
      (e.step t).1.flow = .ended result ∧ (e.step t).1.closing = false := by
    rwa [step_ended ht.2 ht.1]
  obtain ⟨t, ht, hf, hc⟩ := task_after keep (task_launch e claim) ⟨h, rfl⟩ events
  obtain ⟨hlt, hget⟩ := List.getElem?_eq_some_iff.mp ht
  constructor
  · rw [resultAt?, ht, Option.bind_some, Task.result?, hf]
    rfl
  · rw [apply_step_eq ht, step_ended hc hf, ← hget, List.set_getElem_self]

end Ended

end Attestation.Environment
