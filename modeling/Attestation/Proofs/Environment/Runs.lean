import Mathlib
import Attestation.Proofs.Environment.Step

/-!
What an environment does by itself is a history. Running all flows as far as they come, letting time
pass and waiting take steps of flows one after the other, and so does running one flow to its end
(`prove_eq_resultAt?`). What holds along every history therefore holds of these.
-/

namespace Attestation.Environment

variable {e : Environment} {t : Task} {n : Network} {events : List Event}

/-- An event lets one of the first flows take a step, or time pass. -/
def Event.Passive (count : ℕ) : Event → Prop
  | .step place => place < count
  | .pass _ => True
  | _ => False

lemma Event.Passive.mono {event : Event} {count more : ℕ} (h : event.Passive count)
    (hle : count ≤ more) : event.Passive more := by
  cases event with
  | step place => exact Nat.lt_of_lt_of_le h hle
  | pass milliseconds => trivial
  | _ => cases h

lemma after_append (e : Environment) (events later : List Event) :
    e.after (events ++ later) = (e.after events).after later :=
  List.foldl_append

lemma passive_replicate {place count : ℕ} (h : place < count) (k : ℕ) :
    ∀ event ∈ List.replicate k (Event.step place), event.Passive count := by
  intro event hevent
  rw [List.eq_of_mem_replicate hevent]
  exact h

/-- A task that goes on as far as it comes, and is put behind the tasks of an environment. -/
def settleOne (e : Environment) (t : Task) : Environment :=
  { e with network := (run stepsToEnd e t).2, tasks := e.tasks ++ [(run stepsToEnd e t).1] }

lemma settle_eq (e : Environment) : e.settle = e.tasks.foldl settleOne { e with tasks := [] } :=
  rfl

lemma foldl_settleOne (e : Environment) (settled tasks : List Task) : ∃ events,
    (∀ event ∈ events, event.Passive (settled ++ tasks).length) ∧
      tasks.foldl settleOne { e with tasks := settled } =
        { e with tasks := settled ++ tasks }.after events := by
  induction tasks generalizing e settled with
  | nil => exact ⟨[], by simp, by rw [List.append_nil]; rfl⟩
  | cons t tasks ih =>
    let place := settled.length
    have ht : (settled ++ t :: tasks)[place]? = some t := by simp [place]
    have hsteps :=
      after_replicate_step (e := { e with tasks := settled ++ t :: tasks }) stepsToEnd ht
    obtain ⟨events, hevents, heq⟩ := ih { e with network := (run stepsToEnd e t).2 }
      (settled ++ [(run stepsToEnd e t).1])
    refine ⟨List.replicate stepsToEnd (.step place) ++ events, ?_, ?_⟩
    · intro event hevent
      rcases List.mem_append.mp hevent with hevent | hevent
      · exact passive_replicate (by simp [place]) _ event hevent
      · simpa using hevents event hevent
    · have hset : (settled ++ t :: tasks).set place (run stepsToEnd e t).1 =
          settled ++ [(run stepsToEnd e t).1] ++ tasks := by simp [place]
      rw [run_tasks, hset] at hsteps
      rw [after_append, hsteps, ← heq, List.foldl_cons, settleOne, run_tasks]

/-- One environment is reached from another one by passive events. -/
def Follows (e d : Environment) : Prop :=
  ∃ events, (∀ event ∈ events, event.Passive e.tasks.length) ∧ d = e.after events

lemma length_tasks_apply {event : Event} {count : ℕ} (h : event.Passive count) :
    (e.apply event).tasks.length = e.tasks.length := by
  cases event with
  | step place =>
    cases hp : e.tasks[place]? with
    | none => rw [apply, stepAt, hp]
    | some t => rw [apply_step_eq hp, List.length_set]
  | pass milliseconds => rfl
  | _ => cases h

lemma length_tasks_after {count : ℕ} (h : ∀ event ∈ events, event.Passive count) :
    (e.after events).tasks.length = e.tasks.length := by
  induction events generalizing e with
  | nil => rfl
  | cons event events ih =>
    obtain ⟨hevent, hevents⟩ := List.forall_mem_cons.mp h
    exact (ih hevents).trans (length_tasks_apply hevent)

namespace Follows

variable {d f : Environment}

lemma pass (e : Environment) (milliseconds : ℕ) :
    e.Follows { e with now := e.now + milliseconds } :=
  ⟨[.pass milliseconds], by simp [Event.Passive], rfl⟩

lemma trans (h : e.Follows d) (h' : d.Follows f) : e.Follows f := by
  obtain ⟨events, hevents, rfl⟩ := h
  obtain ⟨later, hlater, rfl⟩ := h'
  refine ⟨events ++ later, fun event hevent => ?_, (after_append e events later).symm⟩
  rcases List.mem_append.mp hevent with hevent | hevent
  · exact hevents event hevent
  · rw [length_tasks_after hevents] at hlater
    exact hlater event hevent

lemma length_tasks (h : e.Follows d) : d.tasks.length = e.tasks.length := by
  obtain ⟨events, hevents, rfl⟩ := h
  exact length_tasks_after hevents

lemma settle (e : Environment) : e.Follows e.settle := by
  obtain ⟨events, hevents, heq⟩ := foldl_settleOne e [] e.tasks
  exact ⟨events, hevents, heq⟩

lemma advance (e : Environment) (milliseconds : ℕ) : e.Follows (e.advance milliseconds) :=
  (pass e milliseconds).trans (settle _)

end Follows

lemma now_foldl_settleOne (e : Environment) (tasks : List Task) :
    (tasks.foldl settleOne e).now = e.now := by
  induction tasks generalizing e with
  | nil => rfl
  | cons t tasks ih => exact ih (settleOne e t)

lemma now_settle (e : Environment) : e.settle.now = e.now :=
  now_foldl_settleOne _ e.tasks

lemma Follows.await (e : Environment) (milliseconds : ℕ) : e.Follows (e.await milliseconds) := by
  have h := (settle e).trans (advance e.settle (milliseconds - 1))
  have hnow : (e.settle.advance (milliseconds - 1)).now = e.now + (milliseconds - 1) := by
    rw [Environment.advance, now_settle, now_settle]
  have hlast := h.trans (pass _ (milliseconds - (milliseconds - 1)))
  rwa [hnow, show e.now + (milliseconds - 1) + (milliseconds - (milliseconds - 1)) =
    e.now + milliseconds by omega] at hlast

/-- An environment with one more task behind its own. -/
def withTask (e : Environment) (t : Task) : Environment :=
  { e with tasks := e.tasks ++ [t] }

lemma resultAt?_withTask (e : Environment) (t : Task) :
    (e.withTask t).resultAt? e.tasks.length = t.result? := by
  have ht : (e.withTask t).tasks[e.tasks.length]? = some t := List.getElem?_concat_length
  rw [resultAt?, ht, Option.bind_some]

lemma apply_withTask {event : Event} (h : event.Passive e.tasks.length) (t : Task) :
    (e.withTask t).apply event = (e.apply event).withTask t := by
  cases event with
  | step place =>
    have hlt : place < e.tasks.length := h
    have hp := List.getElem?_eq_getElem hlt
    have hp' : (e.withTask t).tasks[place]? = some e.tasks[place] :=
      (List.getElem?_append_left hlt).trans hp
    rw [apply_step_eq hp, apply_step_eq hp']
    simp only [withTask, List.set_append_left _ _ hlt]
    rfl
  | pass milliseconds => rfl
  | _ => cases h

lemma after_withTask (h : ∀ event ∈ events, event.Passive e.tasks.length) (t : Task) :
    (e.withTask t).after events = (e.after events).withTask t := by
  induction events generalizing e with
  | nil => rfl
  | cons event events ih =>
    obtain ⟨hevent, hevents⟩ := List.forall_mem_cons.mp h
    change ((e.withTask t).apply event).after events = _
    rw [apply_withTask hevent]
    rw [← length_tasks_apply hevent] at hevents
    exact ih hevents

lemma Follows.withTask {d : Environment} (h : e.Follows d) (t : Task) :
    (e.withTask t).Follows (d.withTask t) := by
  obtain ⟨events, hevents, rfl⟩ := h
  refine ⟨events, fun event hevent => ?_, (after_withTask hevents t).symm⟩
  exact (hevents event hevent).mono (by simp [Environment.withTask])

lemma follows_run (e : Environment) (t : Task) (k : ℕ) : (e.withTask t).Follows
    ({ e with network := (run k e t).2 }.withTask (run k e t).1) := by
  have ht : (e.withTask t).tasks[e.tasks.length]? = some t := List.getElem?_concat_length
  have hrun : run k (e.withTask t) t = run k e t := run_tasks k e _ t
  refine ⟨List.replicate k (.step e.tasks.length), ?_, ?_⟩
  · exact passive_replicate (by simp [withTask]) k
  · rw [after_replicate_step k ht, hrun]
    simp [withTask]

lemma follows_spawn (e : Environment) (claim : Claim) :
    (e.apply (.launch claim)).Follows (e.spawn claim) :=
  (follows_run e (e.newTask claim) stepsToEnd).trans (.settle _)

lemma prove_eq_resultAt? (e : Environment) (claim : Claim) : ∃ d,
    (e.apply (.launch claim)).Follows d ∧ (e.prove claim).1 = d.resultAt? e.tasks.length := by
  have hfirst := follows_run e (e.newTask claim) stepsToEnd
  let t := (run stepsToEnd e (e.newTask claim)).1
  let e' : Environment := { e with network := (run stepsToEnd e (e.newTask claim)).2 }
  cases hr : t.result? with
  | some result =>
    refine ⟨e'.withTask t, hfirst, ?_⟩
    rw [prove_eq_of_result hr, ← hr]
    exact (resultAt?_withTask e' t).symm
  | none =>
    let d := e'.await (min Flow.day (t.deadline.getD (e'.now + Flow.day) - e'.now))
    have hawait : e'.Follows d := .await e' _
    have hlength : d.tasks.length = e.tasks.length := hawait.length_tasks
    have hprove : (e.prove claim).1 = (run stepsToEnd d t).1.result? := by
      simp only [prove]
      rw [show (run stepsToEnd e (e.newTask claim)).1.result? = none from hr]
    refine ⟨_, hfirst.trans ((hawait.withTask t).trans (follows_run d t stepsToEnd)), ?_⟩
    rw [hprove, ← hlength]
    exact (resultAt?_withTask _ _).symm

end Attestation.Environment
