import Mathlib
import Attestation.Settings

/-!
Delays without jitter. Main statement: a delay is the exact multiple of the base delay cut at the
longest one, it never falls from one probe to the next, and accepted settings keep it between their
two bounds (`delay_exact`). Machine words that stop at their last value give the same delay
(`delayWords_eq`).
-/

namespace Attestation

/-- A span in words: whole seconds and the nanoseconds behind them. -/
@[ext]
structure Duration.Words where
  secs : UInt64
  nanos : UInt32

namespace Duration

def words (d : Duration) : Words :=
  ⟨.ofNat d.secs, .ofNat d.subsec⟩

namespace Words

def product? (a b : UInt64) : Option UInt64 :=
  if a.toNat * b.toNat < UInt64.size then some (a * b) else none

def sum? (a b : UInt64) : Option UInt64 :=
  if a.toNat + b.toNat < UInt64.size then some (a + b) else none

/-- A multiple, unless its seconds pass 64 bits. -/
def times? (a : Words) (n : UInt32) : Option Words := do
  let nanos := a.nanos.toUInt64 * n.toUInt64
  let secs ← product? a.secs n.toUInt64
  let secs ← sum? secs (nanos / 1_000_000_000)
  some ⟨secs, (nanos % 1_000_000_000).toUInt32⟩

def longest : Words :=
  ⟨0xFFFFFFFFFFFFFFFF, 999_999_999⟩

def times (a : Words) (n : UInt32) : Words :=
  (a.times? n).getD longest

/-- The lesser of two spans, by the seconds first. -/
def least (a b : Words) : Words :=
  if a.secs < b.secs ∨ a.secs = b.secs ∧ a.nanos ≤ b.nanos then a else b

end Words

variable {d e : Duration}

lemma nanos_inj : d.nanos = e.nanos ↔ d = e := by
  cases d
  cases e
  simp

lemma secs_lt (d : Duration) : d.secs < UInt64.size := by
  have h := d.nanos_lt
  rw [secs, Nat.div_lt_iff_lt_mul (by decide)]
  exact h

lemma subsec_lt (d : Duration) : d.subsec < second :=
  Nat.mod_lt _ (by decide)

lemma secs_words (d : Duration) : d.words.secs.toNat = d.secs :=
  UInt64.toNat_ofNat_of_lt' d.secs_lt

lemma nanos_words (d : Duration) : d.words.nanos.toNat = d.subsec :=
  UInt32.toNat_ofNat_of_lt' (d.subsec_lt.trans (by decide))

lemma nanos_eq (d : Duration) : d.nanos = d.secs * second + d.subsec :=
  (Nat.div_add_mod' _ _).symm

lemma eq_words_iff {w : Words} :
    w = d.words ↔ w.secs.toNat = d.secs ∧ w.nanos.toNat = d.subsec := by
  rw [Words.ext_iff, ← UInt64.toNat_inj, ← UInt32.toNat_inj, secs_words, nanos_words]

lemma least_words (d e : Duration) : d.words.least e.words = (min d e).words := by
  have hle : d.words.secs < e.words.secs ∨ d.words.secs = e.words.secs ∧
      d.words.nanos ≤ e.words.nanos ↔ d ≤ e := by
    rw [UInt64.lt_iff_toNat_lt, ← UInt64.toNat_inj, UInt32.le_iff_toNat_le, secs_words, secs_words,
      nanos_words, nanos_words]
    change _ ↔ d.nanos ≤ e.nanos
    have hd := d.subsec_lt
    have he := e.subsec_lt
    rw [nanos_eq d, nanos_eq e, second] at *
    omega
  change (if _ then _ else _) = (if d ≤ e then d else e).words
  simp only [hle]
  split <;> rfl

section Times

variable {n : UInt32}

lemma nanos_mul (d : Duration) (n : ℕ) :
    d.nanos * n = d.secs * n * second + d.subsec * n := by
  rw [nanos_eq d, Nat.add_mul, Nat.mul_right_comm]

lemma toNat_product_nanos (d : Duration) (n : UInt32) :
    (d.words.nanos.toUInt64 * n.toUInt64).toNat = d.subsec * n.toNat := by
  have hlt : d.subsec * n.toNat < second * 2 ^ 32 :=
    Nat.mul_lt_mul'' d.subsec_lt n.toNat_lt
  rw [UInt64.toNat_mul, UInt32.toNat_toUInt64, UInt32.toNat_toUInt64, nanos_words,
    Nat.mod_eq_of_lt (hlt.trans (by decide))]

lemma toNat_product_secs (h : d.secs * n.toNat < UInt64.size) :
    (d.words.secs * n.toUInt64).toNat = d.secs * n.toNat := by
  rw [UInt64.toNat_mul, UInt32.toNat_toUInt64, secs_words]
  exact Nat.mod_eq_of_lt h

-- The product of the nanoseconds always has room, so only the seconds can pass their word.
lemma times?_eq (d : Duration) (n : UInt32) : d.words.times? n =
    if d.secs * n.toNat + d.subsec * n.toNat / second < UInt64.size then
      some ⟨.ofNat (d.secs * n.toNat + d.subsec * n.toNat / second),
        .ofNat (d.subsec * n.toNat % second)⟩
    else none := by
  have hnanos := toNat_product_nanos d n
  have hcarry : ((d.words.nanos.toUInt64 * n.toUInt64) / 1_000_000_000).toNat =
      d.subsec * n.toNat / second := by
    rw [UInt64.toNat_div, hnanos]
    rfl
  have hrest : ((d.words.nanos.toUInt64 * n.toUInt64) % 1_000_000_000).toNat =
      d.subsec * n.toNat % second := by
    rw [UInt64.toNat_mod, hnanos]
    rfl
  rw [Words.times?, Words.product?, secs_words, UInt32.toNat_toUInt64]
  by_cases hsecs : d.secs * n.toNat < UInt64.size
  · rw [if_pos hsecs, Option.bind_eq_bind, Option.bind_some, Words.sum?, toNat_product_secs hsecs,
      hcarry]
    split
    · next h =>
      rw [Option.bind_some, Option.some_inj, Words.mk.injEq]
      constructor
      · rw [← UInt64.toNat_inj, UInt64.toNat_add, toNat_product_secs hsecs, hcarry,
          UInt64.toNat_ofNat_of_lt' h, Nat.mod_eq_of_lt h]
      · rw [← hrest, UInt32.ofNat_uInt64ToNat]
    · rfl
  · rw [if_neg hsecs, if_neg (by omega)]
    rfl

lemma times?_of_lt (h : d.nanos * n.toNat < UInt64.size * second) :
    d.words.times? n = some (d.times n.toNat).words := by
  have hnanos : (d.times n.toNat).nanos = d.secs * n.toNat * second + d.subsec * n.toNat := by
    rw [nanos_times, ← nanos_mul, longest]
    omega
  rw [nanos_mul] at h
  have hsecs : (d.times n.toNat).secs = d.secs * n.toNat + d.subsec * n.toNat / second := by
    rw [secs, hnanos, Nat.add_comm, Nat.add_mul_div_right _ _ (by decide), Nat.add_comm]
  have hsubsec : (d.times n.toNat).subsec = d.subsec * n.toNat % second := by
    rw [subsec, hnanos, Nat.add_comm, Nat.add_mul_mod_self_right]
  rw [times?_eq, if_pos (hsecs ▸ secs_lt _), words, hsecs, hsubsec]

lemma times?_of_le (h : UInt64.size * second ≤ d.nanos * n.toNat) : d.words.times? n = none := by
  rw [nanos_mul] at h
  rw [times?_eq, if_neg]
  rw [second] at *
  omega

lemma times_words (d : Duration) (n : UInt32) : d.words.times n = (d.times n.toNat).words := by
  rcases Nat.lt_or_ge (d.nanos * n.toNat) (UInt64.size * second) with h | h
  · rw [Words.times, times?_of_lt h, Option.getD_some]
  · rw [Words.times, times?_of_le h, Option.getD_none, eq_words_iff]
    have hlongest : (d.times n.toNat).nanos = longest := by
      rw [nanos_times, longest]
      omega
    rw [secs, subsec, hlongest]
    decide

lemma times_one (d : Duration) : d.times 1 = d := by
  rw [← nanos_inj, nanos_times, Nat.mul_one]
  exact min_eq_left d.nanos_le_longest

end Times

end Duration

namespace Backoff

/-- How many base delays a delay lasts behind the given probe. -/
def multiple : Backoff → ℕ → ℕ
  | fixed, _ => 1
  | linear, attempt => max attempt 1
  | exponential, attempt => 2 ^ min (max attempt 1 - 1) 20

/-- A power of a word that stops at the last word. -/
def powerWord (base exponent : UInt32) : UInt32 :=
  if base.toNat ^ exponent.toNat < UInt32.size then .ofNat (base.toNat ^ exponent.toNat)
  else 0xFFFFFFFF

/-- The exponent behind the given probe: one less than its number but not below zero, at most 20. -/
def exponentWord (attempt : UInt32) : UInt32 :=
  let before := if attempt < 1 then 0 else attempt - 1
  if before ≤ 20 then before else 20

lemma factor_eq (b : Backoff) (attempt : UInt32) : b.factor attempt = b.multiple attempt.toNat := by
  cases b with
  | fixed => rfl
  | linear => rfl
  | exponential =>
    have he : max attempt.toNat 1 - 1 = attempt.toNat - 1 := by omega
    rw [factor, multiple, Nat.one_shiftLeft, he]

lemma one_le_multiple (b : Backoff) (attempt : ℕ) : 1 ≤ b.multiple attempt := by
  cases b with
  | fixed => exact le_rfl
  | linear => exact le_max_right attempt 1
  | exponential => exact Nat.one_le_two_pow

lemma multiple_mono (b : Backoff) : Monotone b.multiple := by
  intro m n h
  cases b with
  | fixed => exact le_rfl
  | linear => exact max_le_max_right 1 h
  | exponential => exact Nat.pow_le_pow_right (by decide) (by omega)

lemma toNat_exponentWord (attempt : UInt32) :
    (exponentWord attempt).toNat = min (max attempt.toNat 1 - 1) 20 := by
  have hbefore : (if attempt < 1 then 0 else attempt - 1 : UInt32).toNat =
      max attempt.toNat 1 - 1 := by
    split
    · next h =>
      have hn : attempt.toNat < 1 := UInt32.lt_iff_toNat_lt.mp h
      rw [UInt32.toNat_zero]
      omega
    · next h =>
      have hn : 1 ≤ attempt.toNat := UInt32.le_iff_toNat_le.mp (UInt32.not_lt.mp h)
      rw [UInt32.toNat_sub_of_le _ _ (UInt32.not_lt.mp h), UInt32.toNat_one]
      omega
  have hcap (w : UInt32) : (if w ≤ 20 then w else 20).toNat = min w.toNat 20 := by
    split
    · next h => exact (min_eq_left (UInt32.le_iff_toNat_le.mp h)).symm
    · next h => exact (min_eq_right_of_lt (UInt32.lt_iff_toNat_lt.mp (UInt32.not_le.mp h))).symm
  rw [← hbefore]
  exact hcap _

lemma toNat_powerWord (attempt : UInt32) :
    (powerWord 2 (exponentWord attempt)).toNat = exponential.multiple attempt.toNat := by
  have hlt : 2 ^ min (max attempt.toNat 1 - 1) 20 < UInt32.size :=
    (Nat.pow_le_pow_right (by decide) (min_le_right _ 20)).trans_lt (by decide)
  rw [powerWord, toNat_exponentWord]
  exact (congrArg UInt32.toNat (if_pos hlt)).trans (UInt32.toNat_ofNat_of_lt' hlt)

end Backoff

namespace PollPolicy

/-- The delay without jitter, in words. -/
def delayWords (p : PollPolicy) (attempt : UInt32) : Duration.Words :=
  let d := match p.backoff with
    | .fixed => p.baseDelay.words
    | .linear => p.baseDelay.words.times (if attempt < 1 then 1 else attempt)
    | .exponential => p.baseDelay.words.times (Backoff.powerWord 2 (Backoff.exponentWord attempt))
  d.least p.maxDelay.words

variable {p : PollPolicy} {attempt : UInt32} {x : Float}

lemma delay_eq_steady (hp : p.jitter ≤ 0) (attempt : UInt32) (x : Float) :
    p.delay attempt x = p.steady attempt :=
  if_pos hp

-- The longest delay is itself a span, so a product cut at the longest span is cut again below it.
lemma nanos_steady (p : PollPolicy) (attempt : UInt32) : (p.steady attempt).nanos =
    min (p.baseDelay.nanos * p.backoff.multiple attempt.toNat) p.maxDelay.nanos := by
  have hmax := p.maxDelay.nanos_le_longest
  rw [steady, Duration.nanos_min, Duration.nanos_times, Backoff.factor_eq]
  omega

lemma delayWords_eq (p : PollPolicy) (attempt : UInt32) :
    p.delayWords attempt = (p.steady attempt).words := by
  rw [steady, ← Duration.least_words, delayWords, Backoff.factor_eq]
  cases p.backoff with
  | fixed => rw [Backoff.multiple, Duration.times_one]
  | linear =>
    have hn : (if attempt < 1 then 1 else attempt : UInt32).toNat = max attempt.toNat 1 := by
      split
      · next h => exact (max_eq_right_of_lt (UInt32.lt_iff_toNat_lt.mp h)).symm
      · next h =>
        exact (max_eq_left (UInt32.le_iff_toNat_le.mp (UInt32.not_lt.mp h))).symm
    dsimp only
    rw [Duration.times_words, hn, Backoff.multiple]
  | exponential =>
    dsimp only
    rw [Duration.times_words, Backoff.toNat_powerWord]

lemma steady_mono {a b : UInt32} (h : a ≤ b) : p.steady a ≤ p.steady b := by
  change (p.steady a).nanos ≤ (p.steady b).nanos
  rw [nanos_steady, nanos_steady]
  have hm := p.backoff.multiple_mono (UInt32.le_iff_toNat_le.mp h)
  exact min_le_min_right _ (Nat.mul_le_mul_left _ hm)

end PollPolicy

namespace Settings

variable {s : Settings}

lemma delays_of_flaw? (h : s.flaw? = none) :
    s.pollBaseDelayMs ≠ 0 ∧ s.pollBaseDelayMs ≤ s.pollMaxDelayMs := by
  have hnone {c : Prop} [Decidable c] {flaw : Flaw} {rest : Option Flaw} :
      (if c then some flaw else rest) = none ↔ ¬ c ∧ rest = none := by
    split <;> simp_all
  simp only [flaw?, hnone] at h
  obtain ⟨-, -, -, hbase, hmax, -⟩ := h
  exact ⟨hbase, UInt64.not_lt.mp hmax⟩

lemma nanos_ofMillis (n : UInt64) : (Duration.ofMillis n.toNat).nanos = n.toNat * 1_000_000 := by
  have hn := n.toNat_lt
  rw [Duration.ofMillis, Duration.nanos_ofNanos, Duration.milli, Duration.longest, UInt64.size,
    Duration.second]
  omega

lemma steady_bounds (s : Settings) (h : s.flaw? = none) (attempt : UInt32) :
    0 < s.pollBaseDelayMs.toNat * 1_000_000 ∧
      s.pollBaseDelayMs.toNat * 1_000_000 ≤ (s.poll.steady attempt).nanos ∧
      (s.poll.steady attempt).nanos ≤ s.pollMaxDelayMs.toNat * 1_000_000 := by
  obtain ⟨hbase, hle⟩ := delays_of_flaw? h
  have hpos : 0 < s.pollBaseDelayMs.toNat := UInt64.pos_iff_ne_zero.mpr hbase
  have hmul : s.pollBaseDelayMs.toNat * 1_000_000 ≤ s.pollMaxDelayMs.toNat * 1_000_000 :=
    Nat.mul_le_mul_right _ (UInt64.le_iff_toNat_le.mp hle)
  have hmultiple := Nat.le_mul_of_pos_right (s.pollBaseDelayMs.toNat * 1_000_000)
    (s.poll.backoff.one_le_multiple attempt.toNat)
  have hnanos : (s.poll.steady attempt).nanos = min
      (s.pollBaseDelayMs.toNat * 1_000_000 * s.poll.backoff.multiple attempt.toNat)
      (s.pollMaxDelayMs.toNat * 1_000_000) := by
    rw [PollPolicy.nanos_steady, ← nanos_ofMillis, ← nanos_ofMillis]
    rfl
  rw [hnanos]
  exact ⟨by omega, le_min hmultiple hmul, min_le_right _ _⟩

end Settings

theorem PollPolicy.delay_exact {p : PollPolicy} (hp : p.jitter ≤ 0) :
    (∀ attempt x, (p.delay attempt x).nanos =
      min (p.baseDelay.nanos * p.backoff.multiple attempt.toNat) p.maxDelay.nanos) ∧
    (∀ attempt x, (p.delay attempt x).words = p.delayWords attempt) ∧
    (∀ a b x y, a ≤ b → p.delay a x ≤ p.delay b y) ∧
    ∀ s : Settings, s.flaw? = none → s.poll = p → ∀ attempt x,
      0 < s.pollBaseDelayMs.toNat * 1_000_000 ∧
      s.pollBaseDelayMs.toNat * 1_000_000 ≤ (p.delay attempt x).nanos ∧
      (p.delay attempt x).nanos ≤ s.pollMaxDelayMs.toNat * 1_000_000 := by
  refine ⟨fun attempt x => ?_, fun attempt x => ?_, fun a b x y h => ?_, ?_⟩
  · rw [delay_eq_steady hp, nanos_steady]
  · rw [delay_eq_steady hp, delayWords_eq]
  · rw [delay_eq_steady hp, delay_eq_steady hp]
    exact steady_mono h
  · rintro s hs rfl attempt x
    rw [delay_eq_steady hp]
    exact s.steady_bounds hs attempt

/-- Delays from a quarter of a second to one second, without jitter. -/
def Settings.brisk : Settings :=
  { standard with pollBaseDelayMs := 250, pollMaxDelayMs := 1000, pollJitterFactor := 0 }

theorem PollPolicy.delay_exact_brisk :
    Settings.brisk.poll.jitter ≤ 0 ∧ Settings.brisk.flaw? = none ∧
    (Settings.brisk.poll.delay 2 0).nanos = 500_000_000 ∧
    (Settings.brisk.poll.delay 0xFFFFFFFF 0).nanos = 1_000_000_000 ∧
    Settings.brisk.poll.delay 2 0 ≤ Settings.brisk.poll.delay 3 0 ∧
    250_000_000 ≤ (Settings.brisk.poll.delay 0 0).nanos := by
  have hp : Settings.brisk.poll.jitter ≤ 0 := by decide
  have hs : Settings.brisk.flaw? = none := by decide
  obtain ⟨hexact, -, hmono, hbounds⟩ := delay_exact hp
  refine ⟨hp, hs, ?_, ?_, hmono 2 3 0 0 (by decide), (hbounds _ hs rfl 0 0).2.1⟩
  · rw [hexact]
    decide
  · rw [hexact]
    decide

end Attestation
