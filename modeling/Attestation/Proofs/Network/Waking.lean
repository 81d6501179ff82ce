import Mathlib
import Attestation.Proofs.Network.Filing

/-!
Waiting for a round. A round is recorded first and announced later, a wait subscribes first and
looks for the round later, and rounds may be announced in any order. Main statement: a wait ends
only over a round that is recorded, and who sleeps over such a round has an announcement to wake up
to, as soon as all that is recorded is announced.
-/

namespace Attestation

lemma Network.isFinalized_of_finalize {n : Network} {c : Chain} {round : UInt64}
    (h : (n.finalize c).isFinalized round = true) :
    round = n.current ∨ n.isFinalized round = true := by
  by_cases room : n.current.toNat + 1 < UInt64.size
  · by_cases hr : round = n.current
    · exact .inl hr
    · rw [isFinalized, round?_finalize_of_ne room c hr] at h
      exact .inr h
  · rw [finalize_of_full c room] at h
    exact .inr h

namespace Traffic

variable {t u : Traffic} {event : Event} {w : Waiter} {place : ℕ}

/-- The same rounds are recorded, and the same are announced. -/
structure Still (t u : Traffic) : Prop where
  rounds : ∀ round, u.network.isFinalized round = t.network.isFinalized round
  unannounced : u.unannounced = t.unannounced
  announced : u.announced = t.announced

lemma Still.refl (t : Traffic) : Still t t :=
  ⟨fun _ => rfl, rfl, rfl⟩

/-- What an event makes of the rounds, the announcements and the waiters. -/
inductive Stir (t u : Traffic) : Prop
  | idle (still : Still t u) (waiters : u.waiters = t.waiters)
  | recorded (c : Chain) (network : u.network = t.network.finalize c)
      (unannounced : u.unannounced = t.unannounced ++ [t.network.current])
      (announced : u.announced = t.announced) (waiters : u.waiters = t.waiters)
  | announced (round : UInt64) (network : u.network = t.network)
      (announced : u.announced = t.announced ++ [round]) (waiters : u.waiters = t.waiters)
  | subscribed (round : UInt64) (still : Still t u)
      (waiters : u.waiters = t.waiters ++ [⟨round, t.announced.length, .looking⟩])
  | looked (place : ℕ) (w : Waiter) (waiter : t.waiters[place]? = some w) (still : Still t u)
      (waiters : u.waiters = t.waiters.set place (w.look t.network))
  | woken (place : ℕ) (w : Waiter) (still : Still t u)
      (waiters : u.waiters = t.waiters.set place ⟨w.round, t.announced.length, .looking⟩)

lemma stir_file (t : Traffic) (request : Request) : Stir t (t.file request) := by
  by_cases hr : t.network.rejecting = true
  · rw [file_of_refused (.inr hr)]
    exact .idle (.refl t) rfl
  cases he : Codec.encode request with
  | error e =>
    rw [file_of_refused (.inl (by simp [he]))]
    exact .idle (.refl t) rfl
  | ok data =>
    rw [file_of_accepted he (Bool.eq_false_iff.mpr hr)]
    cases t.network.mode with
    | auto => exact .idle ⟨fun _ => rfl, rfl, rfl⟩ rfl
    | manual => exact .idle ⟨fun _ => rfl, rfl, rfl⟩ rfl

lemma stir_of_next? (h : t.next? event = some u) : Stir t u := by
  cases event with
  | file request =>
    obtain rfl := Option.some.inj h
    exact stir_file t request
  | close place c =>
    obtain ⟨id, -, h⟩ := Option.bind_eq_some_iff.mp h
    obtain rfl := Option.some.inj h
    exact .recorded c rfl rfl rfl rfl
  | finalize c =>
    obtain rfl := Option.some.inj h
    exact .recorded c rfl rfl rfl rfl
  | announce round =>
    obtain ⟨-, h⟩ := Option.ite_none_right_eq_some.mp h
    obtain rfl := Option.some.inj h
    exact .announced round rfl rfl rfl
  | setRejecting on =>
    obtain rfl := Option.some.inj h
    exact .idle ⟨fun _ => rfl, rfl, rfl⟩ rfl
  | setWithholding on =>
    obtain rfl := Option.some.inj h
    exact .idle ⟨fun _ => rfl, rfl, rfl⟩ rfl
  | subscribe round =>
    obtain rfl := Option.some.inj h
    exact .subscribed round ⟨fun _ => rfl, rfl, rfl⟩ rfl
  | look place =>
    obtain ⟨w, hw, h⟩ := Option.bind_eq_some_iff.mp h
    obtain ⟨-, -, h⟩ := Option.bind_eq_some_iff.mp h
    obtain rfl := Option.some.inj h
    exact .looked place w hw ⟨fun _ => rfl, rfl, rfl⟩ rfl
  | wake place =>
    obtain ⟨w, -, h⟩ := Option.bind_eq_some_iff.mp h
    obtain ⟨-, -, h⟩ := Option.bind_eq_some_iff.mp h
    obtain rfl := Option.some.inj h
    exact .woken place w ⟨fun _ => rfl, rfl, rfl⟩ rfl

/-- A waiter that misses nothing: where it sleeps over a round that is recorded, the round is still
to be announced, or there is an announcement that it has not seen. -/
structure Alert (t : Traffic) (w : Waiter) : Prop where
  seen : w.seen ≤ t.announced.length
  done : w.phase = .done → t.network.isFinalized w.round = true
  asleep : w.phase = .asleep → t.network.isFinalized w.round = true →
    w.round ∈ t.unannounced ∨ w.seen < t.announced.length

namespace Alert

lemma looking (t : Traffic) (round : UInt64) :
    t.Alert ⟨round, t.announced.length, .looking⟩ where
  seen := le_rfl
  done h := by cases h
  asleep h := by cases h

lemma look (h : t.Alert w) : t.Alert (w.look t.network) := by
  cases hf : t.network.isFinalized w.round with
  | true => exact ⟨h.seen, fun _ => hf, fun hp => by simp [Waiter.look, hf] at hp⟩
  | false =>
    refine ⟨h.seen, fun hp => by simp [Waiter.look, hf] at hp, fun _ hr => ?_⟩
    exact absurd hr (Bool.eq_false_iff.mp hf)

lemma still (h : t.Alert w) (hs : Still t u) : u.Alert w where
  seen := hs.announced ▸ h.seen
  done hp := (hs.rounds w.round).trans (h.done hp)
  asleep hp hf := by
    rw [hs.rounds] at hf
    rw [hs.unannounced, hs.announced]
    exact h.asleep hp hf

/-- A round that is recorded now is announced later. -/
lemma recorded {c : Chain} (h : t.Alert w) (network : u.network = t.network.finalize c)
    (unannounced : u.unannounced = t.unannounced ++ [t.network.current])
    (announced : u.announced = t.announced) : u.Alert w where
  seen := announced ▸ h.seen
  done hp := by
    rw [network]
    exact (Network.Change.finalize c).later.isFinalized (h.done hp)
  asleep hp hf := by
    rw [network] at hf
    rw [unannounced, announced, List.mem_append, List.mem_singleton]
    rcases Network.isFinalized_of_finalize hf with hr | hf
    · exact .inl (.inr hr)
    · exact (h.asleep hp hf).imp_left .inl

/-- Nobody has seen what is announced now, whatever round it is. -/
lemma announced {round : UInt64} (h : t.Alert w) (network : u.network = t.network)
    (announced : u.announced = t.announced ++ [round]) : u.Alert w := by
  have hseen : w.seen < u.announced.length := by
    rw [announced, List.length_append, List.length_singleton]
    exact Nat.lt_succ_of_le h.seen
  exact ⟨hseen.le, fun hp => network ▸ h.done hp, fun _ _ => .inr hseen⟩

lemma stir (h : ∀ w ∈ t.waiters, t.Alert w) (hs : Stir t u) : ∀ w ∈ u.waiters, u.Alert w := by
  intro w hw
  cases hs with
  | idle still waiters => exact (h w (waiters ▸ hw)).still still
  | recorded c network unannounced announced waiters =>
    exact (h w (waiters ▸ hw)).recorded network unannounced announced
  | announced round network announced waiters =>
    exact (h w (waiters ▸ hw)).announced network announced
  | subscribed round still waiters =>
    rw [waiters, List.mem_append, List.mem_singleton] at hw
    rcases hw with hw | rfl
    · exact (h w hw).still still
    · exact (looking t round).still still
  | looked place w' waiter still waiters =>
    rw [waiters] at hw
    rcases List.mem_or_eq_of_mem_set hw with hw | rfl
    · exact (h w hw).still still
    · exact (h w' (List.mem_of_getElem? waiter)).look.still still
  | woken place w' still waiters =>
    rw [waiters] at hw
    rcases List.mem_or_eq_of_mem_set hw with hw | rfl
    · exact (h w hw).still still
    · exact (looking t w'.round).still still

lemma of_reachable (h : t.Reachable) : ∀ w ∈ t.waiters, t.Alert w := by
  induction h with
  | start mode salt =>
    intro w hw
    cases hw
  | step _ hs ih => exact stir ih (stir_of_next? hs)

end Alert

/-- The wait in a place is over. -/
def HasEnded (t : Traffic) (place : ℕ) : Prop :=
  ∃ w, t.waiters[place]? = some w ∧ w.phase = .done

section Turns

variable (hw : t.waiters[place]? = some w)
include hw

lemma next?_look (hp : w.phase = .looking) : t.next? (.look place) =
    some { t with waiters := t.waiters.set place (w.look t.network) } := by
  simp [next?, hw, hp]

lemma next?_wake (hp : w.phase = .asleep) (hs : w.seen < t.announced.length) :
    t.next? (.wake place) = some { t with
      waiters :=
        t.waiters.set place { w with seen := t.announced.length, phase := .looking } } := by
  simp [next?, hw, hp, hs]

lemma getElem?_set_waiter (w' : Waiter) : (t.waiters.set place w')[place]? = some w' := by
  obtain ⟨hlt, -⟩ := List.getElem?_eq_some_iff.mp hw
  exact List.getElem?_set_self hlt

lemma hasEnded_look (hp : w.phase = .looking) (hf : t.network.isFinalized w.round = true) :
    ∃ u, t.next? (.look place) = some u ∧ u.HasEnded place := by
  refine ⟨_, next?_look hw hp, _, getElem?_set_waiter hw _, ?_⟩
  rw [Waiter.look, if_pos hf]

/-- The wait comes to its end in turns of its own: over a round that is recorded, with an
announcement to wake up to where it sleeps, no more than two of them are missing. -/
lemma exists_hasEnded (hf : t.network.isFinalized w.round = true)
    (hs : w.phase = .asleep → w.seen < t.announced.length) :
    ∃ events u, List.Sublist events [.wake place, .look place] ∧ t.after? events = some u ∧
      u.HasEnded place := by
  cases hp : w.phase with
  | done => exact ⟨[], t, List.nil_sublist _, rfl, w, hw, hp⟩
  | looking =>
    obtain ⟨u, hu, hd⟩ := hasEnded_look hw hp hf
    exact ⟨[.look place], u, List.sublist_cons_self _ _, by simp [after?, hu], hd⟩
  | asleep =>
    have hwake := next?_wake hw hp (hs hp)
    obtain ⟨u, hu, hd⟩ := hasEnded_look
      (t := { t with waiters := t.waiters.set place ⟨w.round, t.announced.length, .looking⟩ })
      (getElem?_set_waiter hw _) rfl hf
    exact ⟨_, u, List.Sublist.refl _, by simp [after?, hwake, hu], hd⟩

end Turns

theorem waits_end (h : t.Reachable) :
    (∀ w ∈ t.waiters, w.phase = .done → t.network.isFinalized w.round = true) ∧
    (∀ w ∈ t.waiters, w.phase = .asleep → t.network.isFinalized w.round = true →
      w.round ∈ t.unannounced ∨ w.seen < t.announced.length) ∧
    (t.unannounced = [] → ∀ place w, t.waiters[place]? = some w →
      t.network.isFinalized w.round = true →
        (w.phase = .asleep → w.seen < t.announced.length) ∧
        ∃ events u, List.Sublist events [.wake place, .look place] ∧ t.after? events = some u ∧
          u.HasEnded place) := by
  have ha := Alert.of_reachable h
  refine ⟨fun w hw => (ha w hw).done, fun w hw => (ha w hw).asleep, ?_⟩
  intro hnone place w hw hf
  have hs : w.phase = .asleep → w.seen < t.announced.length := by
    intro hp
    refine ((ha w (List.mem_of_getElem? hw)).asleep hp hf).resolve_left ?_
    rw [hnone]
    exact List.not_mem_nil
  exact ⟨hs, exists_hasEnded hw hf hs⟩

/-- The second round is announced before the first one. Who waited for the first woke up to that
already, and who waits for the second is asleep. -/
theorem waits_end_out_of_order : ∃ t : Traffic,
    t.Reachable ∧ t.unannounced = [] ∧ t.announced = [2, 1] ∧
      t.waiters = [⟨1, 1, .done⟩, ⟨2, 0, .asleep⟩] ∧ t.network.isFinalized 1 = true ∧
      t.network.isFinalized 2 = true ∧
      ∃ events u, List.Sublist events [.wake 1, .look 1] ∧ t.after? events = some u ∧
        u.HasEnded 1 := by
  let c : Chain := .start .btc 2 10
  have h₀ := Reachable.start .manual standardSalt
  have h₁ := h₀.step (show next? _ (.subscribe 1) = some _ from rfl)
  have h₂ := h₁.step (show next? _ (.look 0) = some _ from rfl)
  have h₃ := h₂.step (show next? _ (.subscribe 2) = some _ from rfl)
  have h₄ := h₃.step (show next? _ (.look 1) = some _ from rfl)
  have h₅ := h₄.step (show next? _ (.finalize c) = some _ from rfl)
  have h₆ := h₅.step (show next? _ (.finalize c) = some _ from rfl)
  have h₇ := h₆.step (show next? _ (.announce 2) = some _ from rfl)
  have h₈ := h₇.step (show next? _ (.wake 0) = some _ from rfl)
  have h₉ := h₈.step (show next? _ (.look 0) = some _ from rfl)
  have h := h₉.step (show next? _ (.announce 1) = some _ from rfl)
  obtain ⟨hd, -, hs⟩ := waits_end h
  exact ⟨_, h, rfl, rfl, rfl, hd ⟨1, 1, .done⟩ List.mem_cons_self rfl, rfl,
    (hs rfl 1 ⟨2, 0, .asleep⟩ rfl rfl).2⟩

end Traffic

end Attestation
