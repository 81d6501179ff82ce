import Mathlib
import Attestation.Proofs.Merkle.Heap

/-!
The tree once more over a plain list of nodes, with every partial step made visible: it has no
answer where a place lies outside the list or a difference falls below zero. No list of hashes leads
there (`ofSorted?_eq`, `proof?_eq`). Leaves are found by halving, which rests on their order
(`search?_eq`).
-/

namespace Attestation.Merkle.Guarded

def minus? (a b : ℕ) : Option ℕ :=
  if b ≤ a then some (a - b) else none

def set? (nodes : List Hash) (i : ℕ) (h : Hash) : Option (List Hash) :=
  if i < nodes.length then some (nodes.set i h) else none

def fill? : ℕ → List Hash → Option (List Hash)
  | 0, nodes => some nodes
  | i + 1, nodes => do
    let left ← nodes[2 * i + 1]?
    let right ← nodes[2 * i + 2]?
    fill? i (← set? nodes i (join left right))

def ofSorted? (leaves : List Hash) : Option (List Hash) :=
  if leaves.length = 0 then some []
  else do
    let inner ← minus? leaves.length 1
    fill? inner (List.replicate inner Hash.zero ++ leaves)

/-- The number of leaves and the nodes of the tree over a list of hashes. -/
def build? (hs : List Hash) : Option (ℕ × List Hash) :=
  (ofSorted? (sorted hs)).map ((sorted hs).length, ·)

def siblings? (nodes : List Hash) (pos : ℕ) : Option (List Hash) :=
  if pos = 0 then some []
  else do
    let before ← minus? pos 1
    let sibling ← nodes[if pos % 2 = 1 then pos + 1 else before]?
    let rest ← siblings? nodes ((pos - 1) / 2)
    some (sibling :: rest)
termination_by pos

def proof? (leafCount : ℕ) (nodes : List Hash) (index : ℕ) : Option (Option (List Hash)) :=
  if leafCount ≤ index then some none
  else do
    let inner ← minus? leafCount 1
    (siblings? nodes (inner + index)).map some

def leaves? (leafCount : ℕ) (nodes : List Hash) : Option (List Hash) :=
  (minus? nodes.length leafCount).map nodes.drop

def search? (l : List Hash) (h : Hash) (low high : ℕ) : Option (Option ℕ) :=
  if low < high then do
    let x ← l[(low + high) / 2]?
    if x = h then some (some ((low + high) / 2))
    else if x < h then search? l h ((low + high) / 2 + 1) high
    else search? l h low ((low + high) / 2)
  else some none
termination_by high - low

def proofOf? (leafCount : ℕ) (nodes : List Hash) (leaf : Hash) : Option (Option (List Hash)) := do
  let leaves ← leaves? leafCount nodes
  match ← search? leaves leaf 0 leaves.length with
  | none => some none
  | some index => proof? leafCount nodes index

variable {n i : ℕ} {nodes : Vector Hash (2 * n - 1)} {h : Hash} {l : List Hash}

lemma minus?_of_le {a b : ℕ} (h : b ≤ a) : minus? a b = some (a - b) :=
  if_pos h

lemma getElem?_toList {pos : ℕ} (h : pos < 2 * n - 1) : nodes.toList[pos]? = some nodes[pos] := by
  rw [Vector.getElem?_toList, Vector.getElem?_eq_getElem h]

lemma fill?_eq (hi : i < n ∨ i = 0) : fill? i nodes.toList = some (fill nodes i hi).toList := by
  induction i generalizing nodes with
  | zero => rfl
  | succ i ih =>
    have hs : i < nodes.toList.length := by rw [Vector.length_toList]; omega
    rw [fill?, getElem?_toList (by omega), getElem?_toList (by omega), fill]
    simp only [Option.bind_eq_bind, Option.bind_some, set?, if_pos hs]
    rw [← Vector.toList_set (by omega)]
    exact ih _

lemma ofSorted?_eq (leaves : List Hash) :
    ofSorted? leaves = some (Tree.ofSorted leaves).nodes.toList := by
  cases leaves with
  | nil => rfl
  | cons leaf leaves =>
    let nodes : Vector Hash (2 * (leaf :: leaves).length - 1) :=
      ⟨(List.replicate leaves.length Hash.zero ++ leaf :: leaves).toArray, by simp; omega⟩
    rw [ofSorted?, if_neg (by simp), minus?_of_le (by simp)]
    exact @fill?_eq (leaf :: leaves).length leaves.length nodes (by simp)

lemma siblings?_eq (t : Tree) {pos : ℕ} (h : pos < 2 * t.leafCount - 1) :
    siblings? t.nodes.toList pos = some (t.siblings pos h) := by
  induction pos using Nat.strong_induction_on with
  | _ pos ih =>
    rcases place_cases pos with rfl | ⟨i, rfl | rfl⟩
    · rw [siblings?, if_pos rfl, Tree.siblings_zero]
    · have hp : (2 * i + 1 - 1) / 2 = i := by omega
      have hm : (2 * i + 1) % 2 = 1 := by omega
      rw [siblings?, if_neg (by omega), minus?_of_le (by omega), hp, ih i (by omega) (by omega),
        Tree.siblings_left]
      simp only [Option.bind_eq_bind, Option.bind_some, if_pos hm]
      rw [getElem?_toList (by omega), Option.bind_some]
    · have hp : (2 * i + 2 - 1) / 2 = i := by omega
      have hm : ¬ (2 * i + 2) % 2 = 1 := by omega
      rw [siblings?, if_neg (by omega), minus?_of_le (by omega), hp, ih i (by omega) (by omega),
        Tree.siblings_right]
      simp only [Option.bind_eq_bind, Option.bind_some, if_neg hm, Nat.add_succ_sub_one]
      rw [getElem?_toList (by omega), Option.bind_some]

lemma proof?_eq (t : Tree) (i : ℕ) : proof? t.leafCount t.nodes.toList i = some (t.proof? i) := by
  rw [proof?, Tree.proof?]
  by_cases hi : i < t.leafCount
  · rw [if_neg (Nat.not_le.mpr hi), dif_pos hi, minus?_of_le (by omega)]
    exact congrArg (Option.map some) (siblings?_eq t (by omega))
  · rw [if_pos (Nat.not_lt.mp hi), dif_neg hi]

lemma leaves?_eq (t : Tree) : leaves? t.leafCount t.nodes.toList = some t.leaves := by
  have hd : 2 * t.leafCount - 1 - t.leafCount = t.leafCount - 1 := by omega
  rw [leaves?, Vector.length_toList, minus?_of_le (by omega), hd]
  rfl

-- What lies before `low` is less than the hash and what lies from `high` on is greater.
lemma search?_eq {low high : ℕ} (hl : l.Pairwise (· < ·)) (hn : high ≤ l.length)
    (hlow : ∀ i (_ : i < l.length), i < low → l[i] < h)
    (hhigh : ∀ i (_ : i < l.length), high ≤ i → h < l[i]) :
    search? l h low high = some (l.idxOf? h) := by
  have hp : ∀ i j (_ : i < l.length) (_ : j < l.length), i < j → l[i] < l[j] :=
    List.pairwise_iff_getElem.mp hl
  fun_induction search? l h low high with
  | case1 low high hlt above below =>
    have hm : (low + high) / 2 < l.length := by omega
    rw [List.getElem?_eq_getElem hm, Option.bind_eq_bind, Option.bind_some]
    split
    · next he =>
      have hx : l[(low + high) / 2]? = some h := by rw [List.getElem?_eq_getElem hm, he]
      rw [idxOf?_of_ascending hl hx]
    · next hne =>
      split
      · next hx =>
        refine above hn (fun i hi hi' => ?_) hhigh
        by_cases hmi : i = (low + high) / 2
        · subst hmi
          exact hx
        · exact BitVec.lt_trans (hp i _ hi hm (by omega)) hx
      · next hx =>
        have hx' : h < l[(low + high) / 2] :=
          BitVec.lt_of_le_ne (BitVec.not_lt.mp hx) (Ne.symm hne)
        refine below (by omega) hlow fun i hi hi' => ?_
        by_cases hmi : i = (low + high) / 2
        · subst hmi
          exact hx'
        · exact BitVec.lt_trans hx' (hp _ i hm hi (by omega))
  | case2 low high hle =>
    have hi : l.idxOf? h = none := by
      refine List.idxOf?_eq_none_iff.mpr fun hm => ?_
      obtain ⟨i, hi, rfl⟩ := List.getElem_of_mem hm
      rcases Nat.lt_or_ge i low with hil | hil
      · exact BitVec.lt_irrefl _ (hlow i hi hil)
      · exact BitVec.lt_irrefl _ (hhigh i hi (by omega))
    rw [hi]

end Attestation.Merkle.Guarded
