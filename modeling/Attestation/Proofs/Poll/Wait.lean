import Mathlib
import Attestation.Proofs.Poll.Delay

/-!
How a wait goes. Main statement: it ends with the first answer that is a yes or a failure for good,
and behind each answer before that one it sleeps as long as the policy says for a probe of that
number, where numbers stay at the last one of 32 bits (`wait_exact`).
-/

namespace Attestation.Poll

/-- Answers behind which a wait goes on: a no and the failures that may pass. -/
inductive Pending : Except Fault Bool → Prop
  | no : Pending (.ok false)
  | unavailable (reason : String) : Pending (.error (.oracleUnavailable reason))
  | timeout (seconds : UInt64) : Pending (.error (.timeout seconds))
  | failed (status : UInt16) (body : String) : Pending (.error (.oracleFailed status body))

/-- Answers that end a wait, and with what. -/
inductive Settles : Except Fault Bool → Except Fault Unit → Prop
  | yes : Settles (.ok true) (.ok ())
  | fault {e : Fault} (h : ¬ Pending (.error e)) : Settles (.error e) (.error e)

/-- The first answer that ends a wait is the one at this position, counted from 1. -/
def EndsAt (answers : List (Except Fault Bool)) (k : ℕ) (result : Except Fault Unit) : Prop :=
  ∃ earlier last rest, answers = earlier ++ last :: rest ∧ k = earlier.length + 1 ∧
    (∀ a ∈ earlier, Pending a) ∧ Settles last result

/-- The number of a probe, counted from 1. -/
def number (n : ℕ) : UInt32 :=
  UInt32.ofNat (min n (2 ^ 32 - 1))

variable {p : PollPolicy} {draw : UInt32 → Float} {probes : UInt32} {n : ℕ}
  {a last : Except Fault Bool} {answers earlier rest : List (Except Fault Bool)}
  {result : Except Fault Unit}

lemma isRetryable_iff {e : Fault} : e.isRetryable = true ↔ Pending (.error e) := by
  constructor
  · intro h
    cases e with
    | oracleUnavailable reason => exact .unavailable reason
    | timeout seconds => exact .timeout seconds
    | oracleFailed status body => exact .failed status body
    | _ => cases h
  · intro h
    cases h <;> rfl

lemma verdict?_of_pending (h : Pending a) : verdict? a = none := by
  cases h <;> rfl

lemma verdict?_of_settles (h : Settles a result) : verdict? a = some result := by
  cases h with
  | yes => rfl
  | fault h => exact if_neg (mt isRetryable_iff.mp h)

lemma pending_or_settles (a : Except Fault Bool) : Pending a ∨ ∃ result, Settles a result := by
  rcases a with e | _ | _
  · exact or_iff_not_imp_left.mpr fun h => ⟨_, .fault h⟩
  · exact .inl .no
  · exact .inr ⟨_, .yes⟩

lemma Settles.not_pending (h : Settles a result) : ¬ Pending a := by
  cases h with
  | yes => nofun
  | fault h => exact h

lemma toNat_number (n : ℕ) : (number n).toNat = min n (2 ^ 32 - 1) := by
  rw [number, UInt32.toNat_ofNat_of_lt']
  rw [UInt32.size]
  omega

lemma next_number (n : ℕ) : next (number n) = number (n + 1) := by
  have hlast : number n = 0xFFFFFFFF ↔ 2 ^ 32 - 1 ≤ n := by
    rw [← UInt32.toNat_inj, toNat_number]
    change min n (2 ^ 32 - 1) = 2 ^ 32 - 1 ↔ _
    omega
  rw [next, ← UInt32.toNat_inj, toNat_number]
  split
  · next h =>
    have hn := hlast.mp h
    rw [toNat_number]
    omega
  · next h =>
    have hn := mt hlast.mpr h
    rw [UInt32.toNat_add, toNat_number]
    change (min n (2 ^ 32 - 1) + 1) % 2 ^ 32 = _
    omega

lemma waitAfter_of_pending (h : Pending a) : waitAfter p draw probes (a :: rest) =
    { waitAfter p draw (next probes) rest with
      sleeps := p.delay (next probes) (draw (next probes)) ::
        (waitAfter p draw (next probes) rest).sleeps } := by
  rw [waitAfter, verdict?_of_pending h]

lemma waitAfter_of_settles (h : Settles a result) :
    waitAfter p draw probes (a :: rest) = ⟨some result, [], rest⟩ := by
  rw [waitAfter, verdict?_of_settles h]

/-- The sleeps behind so many probes in turn, the first of which has the number behind `n`. -/
def sleepsBehind (p : PollPolicy) (draw : UInt32 → Float) (n probes : ℕ) : List Duration :=
  (List.range' (n + 1) probes).map fun i => p.delay (number i) (draw (number i))

lemma length_sleepsBehind (p : PollPolicy) (draw : UInt32 → Float) (n probes : ℕ) :
    (sleepsBehind p draw n probes).length = probes := by
  rw [sleepsBehind, List.length_map, List.length_range']

lemma getElem?_sleepsBehind {i probes : ℕ} (h : i < probes) :
    (sleepsBehind p draw n probes)[i]? =
      some (p.delay (number (n + 1 + i)) (draw (number (n + 1 + i)))) := by
  rw [sleepsBehind, List.getElem?_map, List.getElem?_range' h, Option.map_some, Nat.one_mul]

lemma waitAfter_append (h : ∀ a ∈ earlier, Pending a) :
    waitAfter p draw (number n) (earlier ++ rest) =
      { waitAfter p draw (number (n + earlier.length)) rest with
        sleeps := sleepsBehind p draw n earlier.length ++
          (waitAfter p draw (number (n + earlier.length)) rest).sleeps } := by
  induction earlier generalizing n with
  | nil => rfl
  | cons a earlier ih =>
    rw [List.forall_mem_cons] at h
    have hn : n + (a :: earlier).length = n + 1 + earlier.length := by
      rw [List.length_cons]
      omega
    rw [List.cons_append, waitAfter_of_pending h.1, next_number, ih h.2, hn]
    rfl

lemma wait_append (h : ∀ a ∈ earlier, Pending a) : wait p draw (earlier ++ rest) =
    { waitAfter p draw (number earlier.length) rest with
      sleeps := sleepsBehind p draw 0 earlier.length ++
        (waitAfter p draw (number earlier.length) rest).sleeps } := by
  have hn : (0 : UInt32) = number 0 := rfl
  rw [wait, hn, waitAfter_append h, Nat.zero_add]

lemma exists_endsAt (h : ∃ a ∈ answers, ∃ result, Settles a result) :
    ∃ k result, EndsAt answers k result := by
  induction answers with
  | nil => simp at h
  | cons a answers ih =>
    rcases pending_or_settles a with ha | ⟨result, ha⟩
    · obtain ⟨b, hb, hs⟩ := h
      rcases List.mem_cons.mp hb with rfl | hb
      · obtain ⟨result, hs⟩ := hs
        exact absurd ha hs.not_pending
      · obtain ⟨k, result, earlier, last, rest, rfl, rfl, he, hl⟩ := ih ⟨b, hb, hs⟩
        exact ⟨_, result, a :: earlier, last, rest, rfl, rfl, List.forall_mem_cons.mpr ⟨ha, he⟩, hl⟩
    · exact ⟨1, result, [], a, answers, rfl, rfl, List.forall_mem_nil _, ha⟩

theorem wait_exact (hp : p.jitter ≤ 0) (draw : UInt32 → Float)
    (answers : List (Except Fault Bool)) :
    ((∃ a ∈ answers, ∃ result, Settles a result) → ∃ k result, EndsAt answers k result) ∧
    (∀ k result, EndsAt answers k result →
      (wait p draw answers).result = some result ∧
      (wait p draw answers).rest = answers.drop k ∧
      (wait p draw answers).sleeps.length = k - 1 ∧
      ∀ i x, 1 ≤ i → i ≤ k - 1 → (wait p draw answers).sleeps[i - 1]? =
        some (p.delay (UInt32.ofNat (min i (2 ^ 32 - 1))) x)) ∧
    ((∀ a ∈ answers, Pending a) → (wait p draw answers).result = none ∧
      (wait p draw answers).sleeps.length = answers.length) := by
  refine ⟨exists_endsAt, ?_, fun h => ?_⟩
  · rintro k result ⟨earlier, last, rest, rfl, rfl, he, hl⟩
    rw [wait_append he, waitAfter_of_settles hl, List.append_nil]
    refine ⟨rfl, ?_, ?_, fun i x hi hk => ?_⟩
    · rw [← List.drop_drop, List.drop_left, List.drop_succ_cons, List.drop_zero]
    · rw [length_sleepsBehind, Nat.add_sub_cancel]
    · have hi' : 0 + 1 + (i - 1) = i := by omega
      rw [getElem?_sleepsBehind (by omega), hi', PollPolicy.delay_eq_steady hp,
        PollPolicy.delay_eq_steady hp, number]
  · rw [← List.append_nil answers, wait_append h, waitAfter, List.append_nil, length_sleepsBehind]
    exact ⟨rfl, by rw [List.append_nil]⟩

/-- Three probes in vain, each for another reason, then a failure for good. -/
def refusal : List (Except Fault Bool) :=
  [.ok false, .error (.timeout 30), .error (.oracleFailed 503 ""), .error .cancelled, .ok true]

/-- The delays double from one second up to three. -/
def doubling : PollPolicy :=
  ⟨.ofSecs 1, .ofSecs 3, 0, .exponential⟩

theorem wait_exact_refusal :
    doubling.jitter ≤ 0 ∧ EndsAt refusal 4 (.error .cancelled) ∧
    (wait doubling 0 refusal).result = some (.error .cancelled) ∧
    (wait doubling 0 refusal).rest = [.ok true] ∧
    (wait doubling 0 refusal).sleeps.length = 3 ∧
    (wait doubling 0 refusal).sleeps[1]? = some (.ofSecs 2) ∧
    (wait doubling 0 refusal).sleeps[2]? = some (.ofSecs 3) := by
  have hp : doubling.jitter ≤ 0 := by decide
  have he : EndsAt refusal 4 (.error .cancelled) := by
    refine ⟨refusal.take 3, .error .cancelled, [.ok true], rfl, rfl, ?_, .fault nofun⟩
    simp only [refusal, List.take_succ_cons, List.take_zero, List.forall_mem_cons]
    exact ⟨.no, .timeout 30, .failed 503 "", List.forall_mem_nil _⟩
  obtain ⟨hresult, hrest, hlength, hsleep⟩ := (wait_exact hp 0 refusal).2.1 4 _ he
  refine ⟨hp, he, hresult, hrest, hlength, ?_, ?_⟩
  · rw [hsleep 2 0 (by decide) (by decide), PollPolicy.delay_eq_steady hp]
    rfl
  · rw [hsleep 3 0 (by decide) (by decide), PollPolicy.delay_eq_steady hp]
    rfl

end Attestation.Poll
