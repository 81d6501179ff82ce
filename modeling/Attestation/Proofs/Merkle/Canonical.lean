import Mathlib
import Attestation.Proofs.Except
import Attestation.Proofs.Hash.Grammar
import Attestation.Proofs.Merkle.Inclusion

/-!
What the tree over a list of hashes is. A tree whose inner nodes are the joins of their children is
known from its leaves (`eq_of_leaves`). Main statement: one tree only has the hashes of a list as its
leaves, each once and in ascending order, so that the list's order and repetitions leave no trace in
it; and texts have the tree over the hashes that they spell, unless one of them spells none
(`build_canonical`).
-/

namespace Attestation.Merkle.Tree

/-- How the tree over the hashes of a list lies in its places. -/
structure Laid (hs : List Hash) (t : Tree) : Prop where
  ascending : t.leaves.Pairwise (· < ·)
  mem_leaves : ∀ h, h ∈ t.leaves ↔ h ∈ hs
  length_leaves : t.leaves.length = t.leafCount
  length_nodes : t.nodes.toList.length = 2 * t.leafCount - 1
  last : t.nodes.toList.drop (t.nodes.toList.length - t.leafCount) = t.leaves
  inner : Joined t.nodes 0

variable {t u : Tree} {h : Hash} {hs l : List Hash} {s : String} {ss : List String} {e : Error}

-- From the last place to the first: the leaves come first, then joins of nodes that are known.
lemma getElem_eq_of_last {n : ℕ} {nodes others : Vector Hash (2 * n - 1)} (h : Joined nodes 0)
    (h' : Joined others 0)
    (hlast : ∀ pos (hpos : pos < 2 * n - 1), n - 1 ≤ pos → nodes[pos] = others[pos])
    (pos : ℕ) (hpos : pos < 2 * n - 1) : nodes[pos] = others[pos] := by
  rcases Nat.lt_or_ge pos (n - 1) with hinner | hleaf
  · rw [h pos hinner (Nat.zero_le _), h' pos hinner (Nat.zero_le _),
      getElem_eq_of_last h h' hlast (2 * pos + 1) (by omega),
      getElem_eq_of_last h h' hlast (2 * pos + 2) (by omega)]
  · exact hlast pos hpos hleaf
termination_by 2 * n - pos

lemma eq_of_leaves (ht : Joined t.nodes 0) (hu : Joined u.nodes 0) (h : t.leaves = u.leaves) :
    t = u := by
  have hcount : t.leafCount = u.leafCount := by rw [← length_leaves, h, length_leaves]
  have hleaf (i : ℕ) := congrArg (fun l => l[i]?) h
  simp only [getElem?_leaves] at hleaf
  obtain ⟨n, nodes⟩ := t
  obtain ⟨m, others⟩ := u
  obtain rfl : n = m := hcount
  congr 1
  refine Vector.ext (getElem_eq_of_last ht hu fun pos hpos hlast => ?_)
  have hget := hleaf (pos - (n - 1))
  simp only [Nat.add_sub_cancel' hlast, Vector.getElem?_eq_getElem hpos, Option.some_inj] at hget
  exact hget

lemma drop_nodes (t : Tree) :
    t.nodes.toList.drop (t.nodes.toList.length - t.leafCount) = t.leaves := by
  have hn : 2 * t.leafCount - 1 - t.leafCount = t.leafCount - 1 := by omega
  rw [Vector.length_toList, hn, leaves]

lemma laid_build (hs : List Hash) : Laid hs (build hs) where
  ascending := leaves_build hs ▸ sorted_ascending hs
  mem_leaves h := by rw [leaves_build, mem_sorted]
  length_leaves := length_leaves _
  length_nodes := Vector.length_toList
  last := drop_nodes _
  inner := joined_build hs

lemma Laid.eq_build (h : Laid hs t) : t = build hs := by
  apply eq_of_leaves h.inner (joined_build hs)
  apply h.ascending.eq_of_mem_iff (laid_build hs).ascending
  intro x
  rw [h.mem_leaves, (laid_build hs).mem_leaves]

lemma build_eq_build_iff : build l = build hs ↔ ∀ h, h ∈ l ↔ h ∈ hs := by
  refine ⟨fun heq h => ?_, build_congr⟩
  rw [← (laid_build l).mem_leaves, heq, (laid_build hs).mem_leaves]

lemma build_leaves (hs : List Hash) : build (build hs).leaves = build hs :=
  build_congr (laid_build hs).mem_leaves

/-- A text as a leaf. -/
def leafOf (s : String) : Except Error Hash :=
  match Hash.ofText? s with
  | some h => .ok h
  | none => .error (.invalidHash s)

lemma leafOf_eq_ok_iff : leafOf s = .ok h ↔ Hash.Spells s h := by
  rw [leafOf, ← Hash.ofText?_eq_some_iff]
  cases Hash.ofText? s <;> simp

lemma leafOf_eq_error_iff :
    leafOf s = .error e ↔ (∀ h, ¬ Hash.Spells s h) ∧ e = .invalidHash s := by
  simp only [leafOf, ← Hash.ofText?_eq_some_iff]
  cases Hash.ofText? s <;> simp [eq_comm]

lemma ofTexts_eq (ss : List String) :
    ofTexts ss = ss.mapM leafOf >>= fun hs => .ok (build hs) :=
  rfl

lemma ofTexts_eq_ok_iff : ofTexts ss = .ok t ↔
    ∃ hs, List.Forall₂ Hash.Spells ss hs ∧ t = build hs := by
  simp only [ofTexts_eq, Except.bind_eq_ok_iff, Except.mapM_eq_ok_iff, leafOf_eq_ok_iff,
    Except.ok.injEq, @eq_comm _ t]

lemma ofTexts_eq_error_iff : ofTexts ss = .error e ↔ ∃ earlier s later,
    ss = earlier ++ s :: later ∧ (∀ x ∈ earlier, ∃ h, Hash.Spells x h) ∧
      (∀ h, ¬ Hash.Spells s h) ∧ e = .invalidHash s := by
  simp only [ofTexts_eq, Except.bind_eq_error_iff, Except.mapM_eq_error_iff, leafOf_eq_ok_iff,
    leafOf_eq_error_iff, reduceCtorEq, and_false, exists_false, or_false]

theorem build_canonical (hs : List Hash) (ss : List String) :
    (∀ l, build l = build hs ↔ ∀ h, h ∈ l ↔ h ∈ hs) ∧
    (∀ t, Laid hs t ↔ t = build hs) ∧
    build (build hs).leaves = build hs ∧
    (∀ t, ofTexts ss = .ok t ↔ ∃ hs, List.Forall₂ Hash.Spells ss hs ∧ t = build hs) ∧
    (∀ e, ofTexts ss = .error e ↔ ∃ earlier s later, ss = earlier ++ s :: later ∧
      (∀ x ∈ earlier, ∃ h, Hash.Spells x h) ∧ (∀ h, ¬ Hash.Spells s h) ∧ e = .invalidHash s) := by
  refine ⟨fun l => build_eq_build_iff, fun t => ⟨Laid.eq_build, ?_⟩, build_leaves hs,
    fun t => ofTexts_eq_ok_iff, fun e => ofTexts_eq_error_iff⟩
  rintro rfl
  exact laid_build hs

end Attestation.Merkle.Tree
