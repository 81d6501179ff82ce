import Mathlib
import Attestation.Proofs.Clock.Sharing

/-!
Time on shared clocks. Main statement: all handles that go back to one founder show one clock, on
which 64 bits are left of the time that passed through them and of their sleeps; the time that they
show never goes back exactly if all that passed fits 64 bits (`forward_iff_fits`). One nanosecond
more, and they show none at all (`set_back_by_a_sleep`).
-/

namespace Attestation

/-- What a clock counts of a span. -/
def Duration.counted (d : Duration) : ℕ :=
  min d.nanos (2 ^ 64 - 1)

def Clock.counting (time sleeps : ℕ) : Clock :=
  ⟨UInt64.ofNat time, UInt64.ofNat sleeps⟩

lemma Duration.counted_lt (d : Duration) : d.counted < 2 ^ 64 := by
  rw [Duration.counted]
  omega

lemma Clock.advance_counting (time sleeps : ℕ) (d : Duration) :
    (Clock.counting time sleeps).advance d = .counting (time + d.counted) sleeps := by
  rw [Clock.counting, Clock.counting, UInt64.ofNat_add]
  rfl

lemma Clock.sleep_counting (time sleeps : ℕ) (d : Duration) :
    (Clock.counting time sleeps).sleep d = .counting (time + d.counted) (sleeps + 1) := by
  rw [Clock.sleep, Clock.advance_counting]
  simp [Clock.counting, UInt64.ofNat_add]

namespace Clocks

variable {n m a r : ℕ} {h : History n} {amount : ∀ {n m}, Event n m → ℕ}

/-- The handle on whose clock time passes. -/
def Event.handle? : Event n m → Option (Fin n)
  | .advance handle _ => some handle
  | .sleep handle _ => some handle
  | .share _ => none
  | .fresh => none

def Event.time : Event n m → ℕ
  | .advance _ d => d.counted
  | .sleep _ d => d.counted
  | .share _ => 0
  | .fresh => 0

def Event.sleeps : Event n m → ℕ
  | .advance _ _ => 0
  | .sleep _ _ => 1
  | .share _ => 0
  | .fresh => 0

lemma Event.time_lt (event : Event n m) : event.time < 2 ^ 64 := by
  cases event with
  | advance handle d => exact d.counted_lt
  | sleep handle d => exact d.counted_lt
  | share handle => exact Nat.two_pow_pos 64
  | fresh => exact Nat.two_pow_pos 64

namespace History

/-- The sum over what went through the handles of one founder. -/
def total {n : ℕ} (amount : ∀ {n m}, Event n m → ℕ) (r : ℕ) : History n → ℕ
  | .start => 0
  | .next earlier event => earlier.total amount r +
      if event.handle?.map (fun a : Fin _ => earlier.founder a) = some r then amount event else 0

def passed (h : History n) (r : ℕ) : ℕ :=
  h.total Event.time r

def slept (h : History n) (r : ℕ) : ℕ :=
  h.total Event.sleeps r

-- Whoever has founded something is there.
lemma total_of_le (h : History n) (hr : n ≤ r) : h.total amount r = 0 := by
  induction h with
  | start => rfl
  | next earlier event ih =>
    have hn := event.le.trans hr
    rw [total, ih hn, if_neg]
    intro hthrough
    obtain ⟨handle, -, hfounder⟩ := Option.map_eq_some_iff.mp hthrough
    exact ((earlier.founder_lt handle).trans_le hn).ne hfounder

lemma passed_le_next (h : History n) (event : Event n m) (r : ℕ) :
    h.passed r ≤ (h.next event).passed r :=
  Nat.le_add_right ..

lemma passed_next_lt (h : History n) (event : Event n m) (r : ℕ) :
    (h.next event).passed r < h.passed r + 2 ^ 64 := by
  have htime := event.time_lt
  rw [passed, passed, total]
  split <;> omega

def clock (h : History n) (a : ℕ) : Clock :=
  .counting (h.passed (h.founder a)) (h.slept (h.founder a))

section Passing

variable {event : Event n m} {handle : Fin n} {f : Clock → Clock}
  (hevent : event.handle? = some handle)
  (hf : ∀ t s, f (.counting t s) = .counting (t + event.time) (s + event.sleeps)) (ha : a < n)
include hevent hf ha

lemma clock_next : (h.next event).clock a =
    if h.founder handle = h.founder a then f (h.clock a) else h.clock a := by
  rw [clock, clock, founder_next event ha, hf]
  simp only [passed, slept, total, hevent, Option.map_some, Option.some.injEq]
  split <;> rfl

lemma read?_update_eq (hread : h.clocks.read? a = some (h.clock a)) :
    (h.clocks.update handle f).read? a = some ((h.next event).clock a) := by
  rw [read?_update, clock_next hevent hf ha, hread]
  simp only [h.placed.shared_iff handle handle.isLt a ha]
  split <;> rfl

end Passing

lemma clock_share_of_lt (handle : Fin n) (ha : a < n) :
    (h.next (.share handle)).clock a = h.clock a := by
  rw [clock, founder_next _ ha]
  rfl

lemma clock_share_last (handle : Fin n) :
    (h.next (.share handle)).clock n = h.clock handle := by
  rw [clock, founder_share_last]
  rfl

lemma clock_fresh_last : (h.next .fresh).clock n = .start := by
  have hfounder : (h.next .fresh).founder n = n := h.founder_of_le (Nat.le_refl n)
  have hpassed : (h.next .fresh).passed n = 0 := h.total_of_le (Nat.le_refl n)
  have hslept : (h.next .fresh).slept n = 0 := h.total_of_le (Nat.le_refl n)
  rw [clock, hfounder, hpassed, hslept]
  rfl

lemma read?_eq (h : History n) (ha : a < n) : h.clocks.read? a = some (h.clock a) := by
  induction h generalizing a with
  | start =>
    rw [Nat.lt_one_iff.mp ha]
    rfl
  | @next n m earlier event ih =>
    have p := earlier.placed
    have hn := p.length_handles
    cases event with
    | advance handle d =>
      exact read?_update_eq rfl (Clock.advance_counting · · d) ha (ih ha)
    | sleep handle d =>
      exact read?_update_eq rfl (Clock.sleep_counting · · d) ha (ih ha)
    | share handle =>
      rcases Nat.lt_succ_iff_lt_or_eq.mp ha with ha | rfl
      · rw [clock_share_of_lt handle ha, ← ih ha]
        exact read?_share_of_lt hn handle ha
      · rw [clock_share_last, ← ih handle.isLt]
        exact read?_share_last hn handle
    | fresh =>
      rcases Nat.lt_succ_iff_lt_or_eq.mp ha with ha | rfl
      · exact (read?_fresh_of_lt hn p.lt_length ha).trans (ih ha)
      · rw [clock_fresh_last]
        exact read?_fresh_last hn

lemma read?_of_le (h : History n) (ha : n ≤ a) : h.clocks.read? a = none := by
  rw [read?, List.getElem?_eq_none (h.placed.length_handles.trans_le ha)]
  rfl

/-- Nothing that happened made a handle show less time than before. -/
def Forward {n : ℕ} (a : ℕ) : History n → Prop
  | .start => True
  | .next earlier event => earlier.Forward a ∧ ∀ c c', earlier.clocks.read? a = some c →
      (earlier.clocks.apply event).read? a = some c' → c.elapsed ≤ c'.elapsed

section Forward

lemma toNat_elapsed_clock (h : History n) (a : ℕ) :
    (h.clock a).elapsed.toNat = h.passed (h.founder a) % 2 ^ 64 :=
  UInt64.toNat_ofNat

-- What happens takes less than 64 bits of time, so where it does not fit, less is left than before.
lemma elapsed_le_next_iff (event : Event n m) (ha : a < n)
    (hfits : h.passed (h.founder a) < 2 ^ 64) :
    (h.clock a).elapsed ≤ ((h.next event).clock a).elapsed ↔
      (h.next event).passed (h.founder a) < 2 ^ 64 := by
  have hle := h.passed_le_next event (h.founder a)
  have hlt := h.passed_next_lt event (h.founder a)
  rw [UInt64.le_iff_toNat_le, toNat_elapsed_clock, toNat_elapsed_clock, founder_next event ha]
  omega

lemma forward_next_iff (event : Event n m) (ha : a < n) :
    (h.next event).Forward a ↔
      h.Forward a ∧ (h.clock a).elapsed ≤ ((h.next event).clock a).elapsed := by
  have hread := h.read?_eq ha
  have hread' : (h.clocks.apply event).read? a = some ((h.next event).clock a) :=
    (h.next event).read?_eq (ha.trans_le event.le)
  simp [Forward, hread, hread']

lemma forward_next_of_le (event : Event n m) (ha : n ≤ a) :
    (h.next event).Forward a ↔ h.Forward a := by
  simp [Forward, h.read?_of_le ha]

lemma forward_of_le (h : History n) (ha : n ≤ a) : h.Forward a := by
  induction h with
  | start => trivial
  | next earlier event ih =>
    have hn := event.le.trans ha
    exact (forward_next_of_le event hn).mpr (ih hn)

lemma forward_of_fits (h : History n) (hfits : h.passed (h.founder a) < 2 ^ 64) :
    h.Forward a := by
  induction h with
  | start => trivial
  | @next n m earlier event ih =>
    rcases lt_or_ge a n with ha | ha
    · rw [founder_next event ha] at hfits
      have hearlier := (earlier.passed_le_next event _).trans_lt hfits
      exact (forward_next_iff event ha).mpr
        ⟨ih hearlier, (elapsed_le_next_iff event ha hearlier).mpr hfits⟩
    · exact (forward_next_of_le event ha).mpr (earlier.forward_of_le ha)

-- The founder was there all the time, so that it has shown whatever its clock has shown.
lemma fits_of_forward (h : History n) (hr : h.founder r = r) (hforward : h.Forward r) :
    h.passed r < 2 ^ 64 := by
  induction h with
  | start => exact Nat.two_pow_pos 64
  | @next n m earlier event ih =>
    rcases lt_or_ge r n with hn | hn
    · rw [founder_next event hn] at hr
      obtain ⟨hearlier, hle⟩ := (forward_next_iff event hn).mp hforward
      have hfits := ih hr hearlier
      rw [← hr] at hfits ⊢
      exact (elapsed_le_next_iff event hn hfits).mp hle
    · have hpassed : earlier.passed r = 0 := earlier.total_of_le hn
      have hlt := earlier.passed_next_lt event r
      rwa [hpassed, Nat.zero_add] at hlt

end Forward

theorem forward_iff_fits (h : History n) (handle : Fin n) :
    (∃ c, (∀ other : Fin n, h.founder other = h.founder handle → h.clocks.read? other = some c) ∧
      c.elapsed.toNat = h.passed (h.founder handle) % 2 ^ 64 ∧
      c.sleeps.toNat = h.slept (h.founder handle) % 2 ^ 64) ∧
    ((∀ other : Fin n, h.founder other = h.founder handle → h.Forward other) ↔
      h.passed (h.founder handle) < 2 ^ 64) := by
  refine ⟨⟨h.clock handle, fun other hother => ?_, h.toNat_elapsed_clock handle,
    UInt64.toNat_ofNat⟩, fun hforward => ?_, fun hfits other hother => ?_⟩
  · rw [h.read?_eq other.isLt, clock, clock, hother]
  · have hfounder := h.founder_founder handle
    exact h.fits_of_forward hfounder (hforward ⟨_, h.founder_lt handle⟩ hfounder)
  · exact h.forward_of_fits (hother ▸ hfits)

/-- All that 64 bits hold has passed on a clock with two handles. -/
def brimful : History 2 :=
  .next (.next .start (.advance 0 (.ofNanos (2 ^ 64 - 1)))) (.share 0)

theorem set_back_by_a_sleep :
    let h := brimful.next (.sleep 1 (.ofNanos 1))
    brimful.clocks.readAll = [⟨18446744073709551615, 0⟩, ⟨18446744073709551615, 0⟩] ∧
      h.clocks.readAll = [⟨0, 1⟩, ⟨0, 1⟩] ∧ ¬ h.Forward 0 := by
  intro h
  refine ⟨by decide, by decide, fun hforward => ?_⟩
  exact absurd (hforward.2 _ _ rfl rfl) (by decide)

end History

end Clocks

end Attestation
