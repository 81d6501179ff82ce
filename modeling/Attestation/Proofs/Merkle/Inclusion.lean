import Mathlib
import Attestation.Proofs.Merkle.Guarded

/-!
Main statement: a tree has a root unless it is empty, a proof for each of its places and for each
hash of its list and for no others, and every proof leads to the root.
-/

namespace Attestation.Merkle.Tree

variable {t : Tree} {i : ℕ} {h root : Hash} {hs p : List Hash}

lemma root?_eq_none_iff : (build hs).root? = none ↔ hs = [] := by
  rw [root?_eq, Vector.getElem?_eq_none_iff, leafCount_build, ← sorted_eq_nil_iff,
    ← List.length_eq_zero_iff]
  omega

lemma isSome_proof?_iff : (t.proof? i).isSome ↔ i < t.leafCount := by
  rw [proof?]
  split <;> simp_all

lemma proof?_eq_some (hi : i < t.leafCount) (hn : t.leafCount - 1 + i < 2 * t.leafCount - 1) :
    t.proof? i = some (t.siblings (t.leafCount - 1 + i) hn) :=
  dif_pos hi

lemma climb_proof? (ht : Joined t.nodes 0) (hp : t.proof? i = some p) :
    ∃ leaf, t.leaves[i]? = some leaf ∧ t.root? = some (climb leaf p) := by
  have hi : i < t.leafCount := isSome_proof?_iff.mp (hp ▸ rfl)
  rw [proof?_eq_some hi (by omega)] at hp
  cases hp
  refine ⟨t.nodes[t.leafCount - 1 + i], ?_, ?_⟩
  · rw [getElem?_leaves, Vector.getElem?_eq_getElem]
  · rw [climb_siblings ht, root?_eq, Vector.getElem?_eq_getElem]

lemma exists_proofOf? (hh : h ∈ t.leaves) : ∃ p, t.proofOf? h = some p := by
  obtain ⟨i, hi⟩ := Option.isSome_iff_exists.mp (List.isSome_idxOf?.mpr hh)
  obtain ⟨hl, -⟩ := List.idxOf?_eq_some_iff.mp hi
  rw [length_leaves] at hl
  exact ⟨_, Option.bind_eq_some_iff.mpr ⟨i, hi, proof?_eq_some hl (by omega)⟩⟩

lemma mem_leaves_of_proofOf? (hp : t.proofOf? h = some p) : h ∈ t.leaves := by
  obtain ⟨i, hi, -⟩ := Option.bind_eq_some_iff.mp hp
  exact List.isSome_idxOf?.mp (hi ▸ rfl)

lemma isSome_proofOf?_iff : ((build hs).proofOf? h).isSome ↔ h ∈ hs := by
  rw [← mem_sorted, ← leaves_build, Option.isSome_iff_exists]
  exact ⟨fun ⟨p, hp⟩ => mem_leaves_of_proofOf? hp, exists_proofOf?⟩

lemma climb_proofOf? (ht : Joined t.nodes 0) (hp : t.proofOf? h = some p) :
    t.root? = some (climb h p) := by
  obtain ⟨i, hi, hp⟩ := Option.bind_eq_some_iff.mp hp
  obtain ⟨leaf, hl, hr⟩ := climb_proof? ht hp
  obtain ⟨hlt, he, -⟩ := List.idxOf?_eq_some_iff.mp hi
  cases (List.getElem?_eq_getElem hlt).symm.trans hl
  rwa [he] at hr

lemma guarded_build? (hs : List Hash) :
    Guarded.build? hs = some ((build hs).leafCount, (build hs).nodes.toList) := by
  rw [Guarded.build?, Guarded.ofSorted?_eq]
  rfl

-- The leaves ascend, so that halving finds each of them.
lemma guarded_proofOf? (hs : List Hash) (h : Hash) :
    Guarded.proofOf? (build hs).leafCount (build hs).nodes.toList h =
      some ((build hs).proofOf? h) := by
  have ha : (build hs).leaves.Pairwise (· < ·) := leaves_build hs ▸ sorted_ascending hs
  rw [Guarded.proofOf?, Guarded.leaves?_eq, Option.bind_eq_bind, Option.bind_some,
    Guarded.search?_eq ha le_rfl (fun i _ hi => absurd hi (Nat.not_lt_zero i))
      (fun i hi hi' => absurd hi (Nat.not_lt.mpr hi')), Option.bind_eq_bind, Option.bind_some,
    proofOf?]
  cases (build hs).leaves.idxOf? h with
  | none => rfl
  | some i => exact Guarded.proof?_eq _ i

theorem build_proves (hs : List Hash) :
    ((build hs).root? = none ↔ hs = []) ∧
    (∀ i, ((build hs).proof? i).isSome ↔ i < (build hs).leafCount) ∧
    (∀ i p, (build hs).proof? i = some p → ∃ leaf root, (build hs).leaves[i]? = some leaf ∧
      (build hs).root? = some root ∧ verify leaf p root = true) ∧
    (∀ h, ((build hs).proofOf? h).isSome ↔ h ∈ hs) ∧
    (∀ h p, (build hs).proofOf? h = some p →
      ∃ root, (build hs).root? = some root ∧ verify h p root = true) ∧
    Guarded.build? hs = some ((build hs).leafCount, (build hs).nodes.toList) ∧
    (∀ i, Guarded.proof? (build hs).leafCount (build hs).nodes.toList i =
      some ((build hs).proof? i)) ∧
    ∀ h, Guarded.proofOf? (build hs).leafCount (build hs).nodes.toList h =
      some ((build hs).proofOf? h) := by
  have ht := joined_build hs
  refine ⟨root?_eq_none_iff, fun i => isSome_proof?_iff, fun i p hp => ?_,
    fun h => isSome_proofOf?_iff, fun h p hp => ?_, guarded_build? hs,
    Guarded.proof?_eq (build hs), guarded_proofOf? hs⟩
  · obtain ⟨leaf, hl, hr⟩ := climb_proof? ht hp
    exact ⟨leaf, climb leaf p, hl, hr, beq_self_eq_true _⟩
  · exact ⟨climb h p, climb_proofOf? ht hp, beq_self_eq_true _⟩

end Attestation.Merkle.Tree
