import Mathlib
import Attestation.Proofs.Merkle.Inclusion

/-!
The way from a leaf to the root. Where places are counted from 1, each step halves the place
(`Walk.halved`), so that a place has as many siblings above it as its number has binary digits behind
the first (`length_siblings`). Main statement: a proof has one of the two lengths next to the
logarithm of the number of leaves, and the walk that gathers it ends at the root
(`proof_logarithmic`).
-/

namespace Attestation.Merkle.Tree

/-- A walk upwards from a place: where it has come to, and the siblings that it has met. -/
inductive Walk (t : Tree) (first : ℕ) : ℕ → List Hash → Prop
  | start : Walk t first first []
  | up {pos : ℕ} {met : List Hash} {s : Hash} (h : Walk t first pos met) (hpos : 0 < pos)
    (hs : t.nodes[if pos % 2 = 1 then pos + 1 else pos - 1]? = some s) :
    Walk t first ((pos - 1) / 2) (met ++ [s])

variable {t : Tree} {first pos i k m n : ℕ} {met : List Hash}

lemma siblings_of_pos (hpos : 0 < pos) (h : pos < 2 * t.leafCount - 1) :
    ∃ s, t.nodes[if pos % 2 = 1 then pos + 1 else pos - 1]? = some s ∧
      t.siblings pos h = s :: t.siblings ((pos - 1) / 2) (by omega) := by
  rw [siblings, dif_neg (Nat.ne_of_gt hpos)]
  refine ⟨_, Vector.getElem?_eq_getElem ?_, rfl⟩
  grind

lemma length_siblings (h : pos < 2 * t.leafCount - 1) :
    (t.siblings pos h).length = Nat.log 2 (pos + 1) := by
  induction pos using Nat.strong_induction_on with
  | _ pos ih =>
    rcases Nat.eq_zero_or_pos pos with rfl | hpos
    · rw [siblings_zero, Nat.log_one_right]
      rfl
    · obtain ⟨s, -, hs⟩ := siblings_of_pos hpos h
      have hhalf : (pos - 1) / 2 + 1 = (pos + 1) / 2 := by omega
      have hlog : Nat.log 2 (pos + 1) = Nat.log 2 ((pos + 1) / 2) + 1 :=
        Nat.log_of_one_lt_of_le (by decide) (by omega)
      rw [hs, List.length_cons, ih _ (by omega), hhalf, hlog]

namespace Walk

lemma halved (w : Walk t first pos met) : pos + 1 = (first + 1) / 2 ^ met.length := by
  induction w with
  | start => rw [List.length_nil, pow_zero, Nat.div_one]
  | up w hpos hs ih =>
    rw [List.length_append, List.length_singleton, pow_succ, ← Nat.div_div_eq_div_mul, ← ih]
    omega

lemma lt (w : Walk t first pos met) (h : first < 2 * t.leafCount - 1) :
    pos < 2 * t.leafCount - 1 := by
  have hle : (first + 1) / 2 ^ met.length ≤ first + 1 := Nat.div_le_self _ _
  have := w.halved
  omega

lemma siblings_eq (w : Walk t first pos met) (h : first < 2 * t.leafCount - 1) :
    t.siblings first h = met ++ t.siblings pos (w.lt h) := by
  induction w with
  | start => rfl
  | up w hpos hs ih =>
    obtain ⟨s, hs', hcons⟩ := siblings_of_pos hpos (w.lt h)
    cases hs.symm.trans hs'
    rw [ih, hcons, List.append_assoc]
    rfl

-- As long as siblings are left, the walk has not come to the root.
lemma exists_take (h : first < 2 * t.leafCount - 1) (hk : k ≤ (t.siblings first h).length) :
    ∃ pos, Walk t first pos ((t.siblings first h).take k) := by
  induction k with
  | zero => exact ⟨first, .start⟩
  | succ k ih =>
    obtain ⟨pos, w⟩ := ih (Nat.le_of_succ_le hk)
    have hsplit := w.siblings_eq h
    have hpos : 0 < pos := by
      by_contra hzero
      obtain rfl := Nat.eq_zero_of_not_pos hzero
      rw [siblings_zero, List.append_nil] at hsplit
      have hl := congrArg List.length hsplit
      rw [List.length_take] at hl
      omega
    obtain ⟨s, hs, hcons⟩ := siblings_of_pos hpos (w.lt h)
    have hget : (t.siblings first h)[k]? = some s := by
      have hl : ((t.siblings first h).take k).length = k := by
        rw [List.length_take]
        omega
      rw [hsplit, hcons, List.getElem?_append_right hl.le, hl, Nat.sub_self]
      rfl
    rw [List.take_add_one, hget]
    exact ⟨_, w.up hpos hs⟩

lemma iff_take (h : first < 2 * t.leafCount - 1) : Walk t first pos met ↔
    ∃ k ≤ (t.siblings first h).length, pos + 1 = (first + 1) / 2 ^ k ∧
      met = (t.siblings first h).take k := by
  constructor
  · intro w
    have hsplit := w.siblings_eq h
    refine ⟨met.length, ?_, w.halved, ?_⟩
    · rw [hsplit, List.length_append]
      exact Nat.le_add_right _ _
    · rw [hsplit, List.take_left]
  · rintro ⟨k, hk, hpos, rfl⟩
    obtain ⟨pos', w⟩ := exists_take h hk
    have hpos' := w.halved
    rw [List.length_take, Nat.min_eq_left hk, ← hpos] at hpos'
    rwa [← Nat.succ.inj hpos']

lemma root_iff (h : first < 2 * t.leafCount - 1) :
    Walk t first 0 met ↔ met = t.siblings first h := by
  constructor
  · intro w
    rw [w.siblings_eq h, siblings_zero, List.append_nil]
  · rintro rfl
    refine (iff_take h).mpr ⟨_, le_rfl, ?_, (List.take_length).symm⟩
    have hlow : 2 ^ Nat.log 2 (first + 1) ≤ first + 1 := Nat.pow_log_le_self 2 (Nat.succ_ne_zero _)
    have hhigh := Nat.lt_pow_succ_log_self (b := 2) (by decide) (first + 1)
    rw [length_siblings]
    refine (Nat.div_eq_of_lt_le ?_ ?_).symm
    · rwa [Nat.one_mul]
    · rwa [Nat.mul_comm, ← pow_succ]

end Walk

-- The places of the leaves are counted from `n` to `2n - 1`, and lie on two levels at most.
lemma log_add_eq (hi : i < n) :
    Nat.log 2 (n + i) = Nat.log 2 n ∨ Nat.log 2 (n + i) = Nat.clog 2 n := by
  have hlow : 2 ^ Nat.log 2 n ≤ n := Nat.pow_log_le_self 2 (by omega)
  have hhigh := Nat.lt_pow_succ_log_self (b := 2) (by decide) n
  rw [Nat.succ_eq_add_one] at hhigh
  rcases Nat.lt_or_ge (n + i) (2 ^ (Nat.log 2 n + 1)) with h | h
  · exact .inl (Nat.log_eq_of_pow_le_of_lt_pow (by omega) h)
  · have hlog : Nat.log 2 (n + i) = Nat.log 2 n + 1 := by
      refine Nat.log_eq_of_pow_le_of_lt_pow h ?_
      rw [pow_succ]
      omega
    have hclog : Nat.clog 2 n = Nat.log 2 n + 1 := by
      apply le_antisymm
      · exact Nat.clog_le_of_le_pow hhigh.le
      · refine (Nat.lt_clog_iff_pow_lt (by decide)).mpr ?_
        rw [pow_succ] at h
        omega
    exact .inr (hlog.trans hclog.symm)

theorem proof_logarithmic (hi : i < t.leafCount) : ∃ p, t.proof? i = some p ∧
    p.length = Nat.log 2 (t.leafCount + i) ∧
    (p.length = Nat.log 2 t.leafCount ∨ p.length = Nat.clog 2 t.leafCount) ∧
    (∀ pos met, Walk t (t.leafCount - 1 + i) pos met ↔
      ∃ k ≤ p.length, pos + 1 = (t.leafCount + i) / 2 ^ k ∧ met = p.take k) ∧
    ∀ met, Walk t (t.leafCount - 1 + i) 0 met ↔ met = p := by
  have h : t.leafCount - 1 + i < 2 * t.leafCount - 1 := by omega
  have hfirst : t.leafCount - 1 + i + 1 = t.leafCount + i := by omega
  have hlength := length_siblings h
  rw [hfirst] at hlength
  refine ⟨_, proof?_eq_some hi h, hlength, hlength ▸ log_add_eq hi, fun pos met => ?_, fun met => ?_⟩
  · rw [Walk.iff_take h, hfirst]
  · exact Walk.root_iff h

/-- The first of three leaves lies next to the root, the second one a level below. -/
theorem proof_logarithmic_three : ∃ t p q, t = build [3, 1, 2, 1] ∧ t.leafCount = 3 ∧
    t.proof? 0 = some p ∧ p.length = 1 ∧ t.proof? 1 = some q ∧ q.length = 2 ∧
    Walk t 3 1 (q.take 1) ∧ Walk t 3 0 q := by
  have hs : sorted [3, 1, 2, 1] = [1, 2, 3] := by
    rw [sorted_congr (l := [1, 2, 3]) (by simp; tauto), sorted_of_ascending (by decide)]
  have hn : (build [3, 1, 2, 1]).leafCount = 3 := by rw [leafCount_build, hs]; rfl
  obtain ⟨p, hp, hpl, -⟩ := proof_logarithmic (t := build [3, 1, 2, 1]) (i := 0) (by omega)
  obtain ⟨q, hq, hql, -, hwalk, hroot⟩ :=
    proof_logarithmic (t := build [3, 1, 2, 1]) (i := 1) (by omega)
  rw [hn] at hpl hql hwalk hroot
  refine ⟨_, p, q, rfl, hn, hp, hpl, hq, hql, ?_, (hroot q).mpr rfl⟩
  exact (hwalk 1 _).mpr ⟨1, hql ▸ by decide, rfl, rfl⟩

end Attestation.Merkle.Tree
