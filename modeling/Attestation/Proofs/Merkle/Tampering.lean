import Mathlib
import Attestation.Proofs.Merkle.Binding

/-!
Main statement: a proof that leads to a root leads there from no other leaf, and with no other
sibling in any one place. Climbs that go on along the same siblings and meet have hashed the same
pair first (`pair_eq_of_climb_eq`), and a pair tells each of its members from the other one,
whichever way they are sorted.
-/

namespace Attestation.Merkle

variable {a b leaf root s t : Hash} {xs ys proof : List Hash}

lemma pair_left_inj (h : pair a s = pair b s) : a = b := by
  rcases pair_inj h with ⟨hab, -⟩ | ⟨has, hsb⟩
  · exact hab
  · exact has.trans hsb

lemma pair_right_inj (h : pair a s = pair a t) : s = t := by
  rcases pair_inj h with ⟨-, hst⟩ | ⟨hat, hsa⟩
  · exact hst
  · exact hsa.trans hat

lemma CollisionFree.mono_append {A B C D : List Bytes} (h : CollisionFree (C ++ D)) (ha : A ⊆ C)
    (hb : B ⊆ D) : CollisionFree (A ++ B) := by
  apply h.mono
  exact List.append_subset.mpr
    ⟨List.subset_append_of_subset_left D ha, List.subset_append_of_subset_right C hb⟩

-- From the root down: where the hashes of two pairs are one, the pairs are.
lemma pair_eq_of_climb_eq
    (hs : CollisionFree (climbed a (s :: proof) ++ climbed b (t :: proof)))
    (h : climb a (s :: proof) = climb b (t :: proof)) : pair a s = pair b t := by
  have hjoin : join a s = join b t := by
    rw [Tree.climb_cons, Tree.climb_cons] at h
    induction proof generalizing a b s t with
    | nil => exact h
    | cons u proof ih =>
      rw [Tree.climb_cons, Tree.climb_cons] at h
      have hrest : CollisionFree
          (climbed (join a s) (u :: proof) ++ climbed (join b t) (u :: proof)) :=
        hs.mono_append (List.subset_cons_self _ _) (List.subset_cons_self _ _)
      have hpair : pair (join a s) u = pair (join b t) u :=
        hrest _ (List.mem_append_left _ List.mem_cons_self) _
          (List.mem_append_right _ List.mem_cons_self) (ih hrest h)
      exact pair_left_inj hpair
  exact hs _ (List.mem_append_left _ List.mem_cons_self) _
    (List.mem_append_right _ List.mem_cons_self) hjoin

lemma climb_inj (hs : CollisionFree (climbed a proof ++ climbed b proof))
    (h : climb a proof = climb b proof) : a = b := by
  cases proof with
  | nil => exact h
  | cons s proof => exact pair_left_inj (pair_eq_of_climb_eq hs h)

lemma sibling_inj
    (hs : CollisionFree (climbed leaf (xs ++ s :: ys) ++ climbed leaf (xs ++ t :: ys)))
    (h : climb leaf (xs ++ s :: ys) = climb leaf (xs ++ t :: ys)) : s = t := by
  rw [climbed_append, climbed_append] at hs
  rw [climb_append, climb_append] at h
  have hrest : CollisionFree
      (climbed (climb leaf xs) (s :: ys) ++ climbed (climb leaf xs) (t :: ys)) :=
    hs.mono_append (List.subset_append_right _ _) (List.subset_append_right _ _)
  exact pair_right_inj (pair_eq_of_climb_eq hrest h)

lemma verify_iff : verify leaf proof root = true ↔ climb leaf proof = root :=
  beq_iff_eq

theorem verify_of_tampered (h : verify leaf proof root = true) :
    (∀ leaf', leaf' ≠ leaf → CollisionFree (climbed leaf proof ++ climbed leaf' proof) →
      verify leaf' proof root = false) ∧
    ∀ (i : ℕ) (hi : i < proof.length) (s : Hash), s ≠ proof[i] →
      CollisionFree (climbed leaf proof ++ climbed leaf (proof.set i s)) →
      verify leaf (proof.set i s) root = false := by
  rw [verify_iff] at h
  refine ⟨fun leaf' hne hs => ?_, fun i hi s hne hs => ?_⟩
  · rw [← Bool.not_eq_true, verify_iff]
    intro h'
    exact hne (climb_inj hs (h.trans h'.symm)).symm
  · rw [← Bool.not_eq_true, verify_iff]
    intro h'
    have hproof : proof = proof.take i ++ proof[i] :: proof.drop (i + 1) := by
      rw [List.getElem_cons_drop, List.take_append_drop]
    rw [List.set_eq_take_append_cons_drop, if_pos hi] at hs h'
    rw [hproof] at h
    nth_rewrite 1 [hproof] at hs
    exact hne (sibling_inj hs (h.trans h'.symm)).symm

-- Another leaf, and a first sibling that stands on the other side of the leaf.
theorem verify_of_tampered_two :
    let root : Hash := 0x7cc2ad579ffe0e9670c4ed407723dde34cdc5f3ce03ea5a5fd278a558b291aec
    verify 2 [3, 1] root = true ∧
      CollisionFree (climbed 2 [3, 1] ++ climbed 4 [3, 1]) ∧ verify 4 [3, 1] root = false ∧
      CollisionFree (climbed 2 [3, 1] ++ climbed 2 [1, 1]) ∧ verify 2 [1, 1] root = false := by
  intro root
  have h₁ : join 2 3 = 0xc3a24b0501bd2c13a7e57f2db4369ec4c223447539fc0724a9d55ac4a06ebd4d := by
    rw [join, keccak_eq]
    decide +kernel
  have h₂ : join (join 2 3) 1 = root := by
    rw [h₁, join, keccak_eq]
    decide +kernel
  have h₃ : join 4 3 = 0x2e174c10e159ea99b867ce3205125c24a42d128804e4070ed6fcc8cc98166aa0 := by
    rw [join, keccak_eq]
    decide +kernel
  have h₄ : join (join 4 3) 1 =
      0x00e28636aab960e5ab7bae6afd10a8cb24d3e08dacfd8c3a510db09eb714d136 := by
    rw [h₃, join, keccak_eq]
    decide +kernel
  have h₅ : join 2 1 = 0xe90b7bceb6e7df5418fb78d8ee546e97c83a08bbccc01a0644d599ccd2a7c2e0 := by
    rw [join, keccak_eq]
    decide +kernel
  have h₆ : join (join 2 1) 1 =
      0x7fc34355029a161f70aeee0386d9a2fb9a2518cf3f40dfaefce746c3a701bdb7 := by
    rw [h₅, join, keccak_eq]
    decide +kernel
  have hleaf : CollisionFree (climbed 2 [3, 1] ++ climbed 4 [3, 1]) := by
    apply collisionFree_of_nodup
    change [join 2 3, join (join 2 3) 1, join 4 3, join (join 4 3) 1].Nodup
    rw [h₂, h₄, h₁, h₃]
    decide
  have hsibling : CollisionFree (climbed 2 [3, 1] ++ climbed 2 [1, 1]) := by
    apply collisionFree_of_nodup
    change [join 2 3, join (join 2 3) 1, join 2 1, join (join 2 1) 1].Nodup
    rw [h₂, h₆, h₁, h₅]
    decide
  have h : verify 2 [3, 1] root = true := verify_iff.mpr h₂
  obtain ⟨hl, hs⟩ := verify_of_tampered h
  exact ⟨h, hleaf, hl 4 (by decide) hleaf, hsibling, hs 0 Nat.two_pos 1 (by decide) hsibling⟩

end Attestation.Merkle
