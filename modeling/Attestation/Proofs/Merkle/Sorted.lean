import Mathlib
import Attestation.Merkle

/-!
The leaves of a tree: the hashes of a list (`mem_sorted`), each once and in ascending order
(`sorted_ascending`).
-/

namespace Attestation

namespace Merkle

variable {a b h : Hash} {l hs : List Hash}

lemma eraseReps_loop (acc : List Hash) :
    List.eraseRepsBy.loop (· == ·) a l acc =
      acc.reverse ++ List.eraseRepsBy.loop (· == ·) a l [] := by
  induction l generalizing a acc with
  | nil => simp [List.eraseRepsBy.loop]
  | cons b l ih =>
    simp only [List.eraseRepsBy.loop]
    split
    · exact ih acc
    · rw [ih (a :: acc), ih [a]]
      simp

lemma eraseReps_cons_cons :
    (a :: b :: l).eraseReps = if a = b then (a :: l).eraseReps else a :: (b :: l).eraseReps := by
  simp only [List.eraseReps, List.eraseRepsBy, List.eraseRepsBy.loop]
  by_cases h : a = b
  · simp [h]
  · rw [if_neg h, beq_eq_false_iff_ne.mpr h]
    exact eraseReps_loop [a]

lemma mem_eraseReps_cons : h ∈ (a :: l).eraseReps ↔ h = a ∨ h ∈ l := by
  induction l generalizing a with
  | nil => exact List.mem_singleton.trans (or_iff_left List.not_mem_nil).symm
  | cons b l ih =>
    rw [eraseReps_cons_cons]
    split
    · next h => simp [ih, h]
    · rw [List.mem_cons, ih, List.mem_cons]

lemma ascending_eraseReps_cons (hp : (a :: l).Pairwise (· ≤ ·)) :
    (a :: l).eraseReps.Pairwise (· < ·) := by
  induction l generalizing a with
  | nil => exact List.pairwise_singleton _ a
  | cons b l ih =>
    obtain ⟨ha, hb⟩ := List.pairwise_cons.mp hp
    have hab : a ≤ b := ha b List.mem_cons_self
    rw [eraseReps_cons_cons]
    split
    · exact ih (hp.sublist ((List.sublist_cons_self b l).cons_cons a))
    · next hne =>
      refine List.pairwise_cons.mpr ⟨fun x hx => ?_, ih hb⟩
      have hbx : b ≤ x := by
        rcases mem_eraseReps_cons.mp hx with rfl | hx
        · exact BitVec.le_refl x
        · exact (List.pairwise_cons.mp hb).1 x hx
      rw [← BitVec.not_le]
      intro hxa
      exact hne (BitVec.le_antisymm hab (BitVec.le_trans hbx hxa))

lemma mem_sorted : h ∈ sorted hs ↔ h ∈ hs := by
  have hm : h ∈ hs.mergeSort (· ≤ ·) ↔ h ∈ hs := List.mem_mergeSort
  rw [sorted, ← hm]
  cases hs.mergeSort (· ≤ ·) with
  | nil => rfl
  | cons a l => rw [mem_eraseReps_cons, List.mem_cons]

lemma pairwise_mergeSort_le (hs : List Hash) : (hs.mergeSort (· ≤ ·)).Pairwise (· ≤ ·) := by
  have ht : ∀ a b c : Hash, decide (a ≤ b) = true → decide (b ≤ c) = true →
      decide (a ≤ c) = true := by
    simpa only [decide_eq_true_eq] using fun a b c => BitVec.le_trans
  have hl : ∀ a b : Hash, (decide (a ≤ b) || decide (b ≤ a)) = true := by
    simpa only [Bool.or_eq_true, decide_eq_true_eq] using BitVec.le_total
  simpa only [decide_eq_true_eq] using List.pairwise_mergeSort ht hl hs

lemma sorted_ascending (hs : List Hash) : (sorted hs).Pairwise (· < ·) := by
  have hp := pairwise_mergeSort_le hs
  rw [sorted]
  cases hm : hs.mergeSort (· ≤ ·) with
  | nil => exact List.Pairwise.nil
  | cons a l => exact ascending_eraseReps_cons (hm ▸ hp)

lemma sorted_congr (h : ∀ x, x ∈ hs ↔ x ∈ l) : sorted hs = sorted l := by
  apply (sorted_ascending hs).eq_of_mem_iff (sorted_ascending l)
  intro x
  rw [mem_sorted, mem_sorted, h]

lemma sorted_eq_nil_iff : sorted hs = [] ↔ hs = [] := by
  simp only [List.eq_nil_iff_forall_not_mem, mem_sorted]

lemma eraseReps_of_ascending (hl : l.Pairwise (· < ·)) : l.eraseReps = l := by
  induction l with
  | nil => rfl
  | cons a l ih =>
    obtain ⟨ha, hl⟩ := List.pairwise_cons.mp hl
    cases l with
    | nil => rfl
    | cons b l =>
      have hab : a ≠ b := fun he => BitVec.lt_irrefl b (he ▸ ha b List.mem_cons_self)
      rw [eraseReps_cons_cons, if_neg hab, ih hl]

lemma idxOf?_of_ascending {l : List Hash} {x : Hash} {i : ℕ} (hl : l.Pairwise (· < ·))
    (hx : l[i]? = some x) : l.idxOf? x = some i := by
  obtain ⟨hi, rfl⟩ := List.getElem?_eq_some_iff.mp hx
  refine List.idxOf?_eq_some_iff.mpr ⟨hi, rfl, fun j hj he => ?_⟩
  have hlt := List.pairwise_iff_getElem.mp hl j i (hj.trans hi) hi hj
  exact BitVec.lt_irrefl _ (he ▸ hlt)

lemma sorted_of_ascending (hl : l.Pairwise (· < ·)) : sorted l = l := by
  have hm : l.mergeSort (· ≤ ·) = l := by
    apply List.mergeSort_of_pairwise
    refine hl.imp fun hab => ?_
    simpa only [decide_eq_true_eq] using BitVec.le_of_lt hab
  rw [sorted, hm, eraseReps_of_ascending hl]

end Merkle

end Attestation
