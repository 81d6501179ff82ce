import Attestation.Error
import Attestation.Hash

/-!
Merkle trees over sets of hashes. The leaves are sorted and every inner node hashes its children
in ascending order, so a proof is the bare list of siblings. The nodes lie in a heap: the root at
0, the children of `i` at `2i + 1` and `2i + 2`, the `n` leaves in the last `n` places.
-/

namespace Attestation.Merkle

/-- The bytes that an inner node hashes: its children in ascending order. -/
def pair (a b : Hash) : Bytes :=
  if a ≤ b then Word.toBytes a ++ Word.toBytes b else Word.toBytes b ++ Word.toBytes a

def join (a b : Hash) : Hash :=
  keccak (pair a b)

structure Tree where
  leafCount : Nat
  nodes : Vector Hash (2 * leafCount - 1)
  deriving DecidableEq

/-- The different hashes of a list in ascending order. -/
def sorted (hs : List Hash) : List Hash :=
  (hs.mergeSort (· ≤ ·)).eraseReps

/-- The inner nodes below place `i` from the last to the first, each from its two children. -/
def fill {n : Nat} (nodes : Vector Hash (2 * n - 1)) : (i : Nat) → i < n ∨ i = 0 →
    Vector Hash (2 * n - 1)
  | 0, _ => nodes
  | i + 1, h =>
    fill (nodes.set i (join nodes[2 * i + 1] nodes[2 * i + 2])) i (by omega)

namespace Tree

def empty : Tree :=
  ⟨0, #v[]⟩

/-- The heap over leaves that are sorted and different. -/
def ofSorted (leaves : List Hash) : Tree where
  leafCount := leaves.length
  nodes :=
    fill ⟨(List.replicate (leaves.length - 1) Hash.zero ++ leaves).toArray, by simp; omega⟩
      (leaves.length - 1) (by omega)

def build (hs : List Hash) : Tree :=
  ofSorted (sorted hs)

/-- The tree over hashes in hexadecimal; the first text that is no hash is the error. -/
def ofTexts (ss : List String) : Except Error Tree := do
  let hs ← ss.mapM fun s =>
    match Hash.ofText? s with
    | some h => .ok h
    | none => .error (.invalidHash s)
  return build hs

def root? (t : Tree) : Option Hash :=
  t.nodes.toList.head?

def leaves (t : Tree) : List Hash :=
  t.nodes.toList.drop (t.leafCount - 1)

/-- The siblings on the way from a place up to the root. -/
def siblings (t : Tree) (pos : Nat) (h : pos < 2 * t.leafCount - 1) : List Hash :=
  if h₀ : pos = 0 then []
  else
    let sibling := if pos % 2 = 1 then pos + 1 else pos - 1
    have : sibling < 2 * t.leafCount - 1 := by grind
    t.nodes[sibling] :: siblings t ((pos - 1) / 2) (by omega)
termination_by pos

def proof? (t : Tree) (index : Nat) : Option (List Hash) :=
  if h : index < t.leafCount then some (t.siblings (t.leafCount - 1 + index) (by omega)) else none

def proofOf? (t : Tree) (leaf : Hash) : Option (List Hash) :=
  (t.leaves.idxOf? leaf).bind t.proof?

end Tree

/-- The root to which a proof leads from a leaf. -/
def climb (leaf : Hash) (proof : List Hash) : Hash :=
  proof.foldl join leaf

def verify (leaf : Hash) (proof : List Hash) (root : Hash) : Bool :=
  climb leaf proof == root

end Attestation.Merkle
