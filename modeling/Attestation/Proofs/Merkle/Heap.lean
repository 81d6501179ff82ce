import Mathlib
import Attestation.Proofs.Merkle.Sorted

/-!
The heap of a tree. Filling it makes every inner node the join of its two children
(`joined_build`) and leaves the leaves alone (`leaves_build`). The siblings above a place lead from
its node to the root (`climb_siblings`).
-/

namespace Attestation.Merkle

lemma pair_comm (a b : Hash) : pair a b = pair b a := by
  rcases BitVec.le_total a b with h | h
  · by_cases hab : a = b
    · rw [hab]
    · rw [pair, pair, if_pos h, if_neg fun h' => hab (BitVec.le_antisymm h h')]
  · by_cases hab : a = b
    · rw [hab]
    · rw [pair, pair, if_pos h, if_neg fun h' => hab (BitVec.le_antisymm h' h)]

lemma join_comm (a b : Hash) : join a b = join b a :=
  congrArg keccak (pair_comm a b)

lemma place_cases (pos : ℕ) : pos = 0 ∨ ∃ i, pos = 2 * i + 1 ∨ pos = 2 * i + 2 := by
  rcases Nat.even_or_odd' pos with ⟨i, rfl | rfl⟩
  · rcases i with _ | i
    · exact .inl rfl
    · exact .inr ⟨i, .inr (Nat.mul_succ 2 i)⟩
  · exact .inr ⟨i, .inl rfl⟩

/-- The inner nodes from a place on are the joins of their children. -/
def Joined {n : ℕ} (nodes : Vector Hash (2 * n - 1)) (i : ℕ) : Prop :=
  ∀ (j : ℕ) (_ : j < n - 1), i ≤ j → nodes[j] = join nodes[2 * j + 1] nodes[2 * j + 2]

section Fill

variable {n i : ℕ} {nodes : Vector Hash (2 * n - 1)}

-- The children of a place stand behind it, so that both are final when they are joined.
lemma joined_set (hi : i < n - 1) (h : Joined nodes (i + 1)) :
    Joined (nodes.set i (join nodes[2 * i + 1] nodes[2 * i + 2])) i := by
  intro j hj hij
  have hl : (nodes.set i (join nodes[2 * i + 1] nodes[2 * i + 2]))[2 * j + 1] = nodes[2 * j + 1] :=
    Vector.getElem_set_ne _ _ (by omega)
  have hr : (nodes.set i (join nodes[2 * i + 1] nodes[2 * i + 2]))[2 * j + 2] = nodes[2 * j + 2] :=
    Vector.getElem_set_ne _ _ (by omega)
  rw [hl, hr]
  by_cases hji : i = j
  · subst hji
    exact Vector.getElem_set_self _
  · exact (Vector.getElem_set_ne _ _ hji).trans (h j hj (by omega))

lemma joined_fill (hi : i < n ∨ i = 0) (h : Joined nodes i) : Joined (fill nodes i hi) 0 := by
  induction i generalizing nodes with
  | zero => exact h
  | succ i ih => exact ih _ (joined_set (by omega) h)

lemma getElem_fill {j : ℕ} (hi : i < n ∨ i = 0) (hij : i ≤ j) (hj : j < 2 * n - 1) :
    (fill nodes i hi)[j] = nodes[j] := by
  induction i generalizing nodes with
  | zero => rfl
  | succ i ih => rw [fill, ih _ (by omega), Vector.getElem_set_ne _ _ (by omega)]

end Fill

namespace Tree

variable {t : Tree} {pos i : ℕ} {h : Hash} {hs : List Hash}

lemma leafCount_build (hs : List Hash) : (build hs).leafCount = (sorted hs).length :=
  rfl

lemma joined_build (hs : List Hash) : Joined (build hs).nodes 0 := by
  refine joined_fill _ fun j hj hi => ?_
  exact absurd hj (Nat.not_lt.mpr hi)

lemma getElem_ofSorted {leaves : List Hash} (hi : i < leaves.length)
    (hn : leaves.length - 1 + i < 2 * leaves.length - 1) :
    (ofSorted leaves).nodes[leaves.length - 1 + i] = leaves[i] := by
  refine (getElem_fill _ (Nat.le_add_right _ i) hn).trans ?_
  simp

lemma getElem?_leaves (t : Tree) (i : ℕ) : t.leaves[i]? = t.nodes[t.leafCount - 1 + i]? := by
  rw [leaves, List.getElem?_drop, Vector.getElem?_toList]

lemma length_leaves (t : Tree) : t.leaves.length = t.leafCount := by
  rw [leaves, List.length_drop, Vector.length_toList]
  omega

lemma leaves_build (hs : List Hash) : (build hs).leaves = sorted hs := by
  refine List.ext_getElem? fun i => ?_
  rw [getElem?_leaves]
  rcases Nat.lt_or_ge i (sorted hs).length with hi | hi
  · have hn : (sorted hs).length - 1 + i < 2 * (sorted hs).length - 1 := by omega
    rw [List.getElem?_eq_getElem hi, ← getElem_ofSorted hi hn]
    exact Vector.getElem?_eq_getElem hn
  · rw [List.getElem?_eq_none hi]
    exact Vector.getElem?_eq_none (by rw [leafCount_build]; omega)

lemma build_congr {l : List Hash} (h : ∀ x, x ∈ hs ↔ x ∈ l) : build hs = build l := by
  rw [build, build, sorted_congr h]

lemma root?_eq (t : Tree) : t.root? = t.nodes[0]? := by
  rw [root?, List.head?_eq_getElem?, Vector.getElem?_toList]

lemma siblings_zero (h : 0 < 2 * t.leafCount - 1) : t.siblings 0 h = [] := by
  rw [siblings, dif_pos rfl]

lemma siblings_left (h : 2 * i + 1 < 2 * t.leafCount - 1) :
    t.siblings (2 * i + 1) h = t.nodes[2 * i + 2] :: t.siblings i (by omega) := by
  have hm : (2 * i + 1) % 2 = 1 := by omega
  have hp : (2 * i + 1 - 1) / 2 = i := by omega
  rw [siblings, dif_neg (by omega)]
  simp only [if_pos hm, hp]

lemma siblings_right (h : 2 * i + 2 < 2 * t.leafCount - 1) :
    t.siblings (2 * i + 2) h = t.nodes[2 * i + 1] :: t.siblings i (by omega) := by
  have hm : ¬ (2 * i + 2) % 2 = 1 := by omega
  have hp : (2 * i + 2 - 1) / 2 = i := by omega
  rw [siblings, dif_neg (by omega)]
  simp only [if_neg hm, hp]
  rfl

lemma climb_cons (leaf s : Hash) (proof : List Hash) :
    climb leaf (s :: proof) = climb (join leaf s) proof :=
  rfl

lemma climb_siblings (ht : Joined t.nodes 0) (h : pos < 2 * t.leafCount - 1) :
    climb t.nodes[pos] (t.siblings pos h) = t.nodes[0] := by
  induction pos using Nat.strong_induction_on with
  | _ pos ih =>
    rcases place_cases pos with rfl | ⟨i, rfl | rfl⟩
    · rw [siblings_zero]
      rfl
    · rw [siblings_left, climb_cons, ← ht i (by omega) (Nat.zero_le i)]
      exact ih i (by omega) _
    · rw [siblings_right, climb_cons, join_comm, ← ht i (by omega) (Nat.zero_le i)]
      exact ih i (by omega) _

end Tree

end Attestation.Merkle
