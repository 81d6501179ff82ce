import Mathlib
import Attestation.Hash

/-!
The sponge over a state whose lanes are fields of rows. It absorbs and squeezes what the sponge over
a vector does (`digest_eq`), and its digests can be computed in proofs.
-/

namespace Attestation

namespace Keccak

structure Row where
  (a b c d e : UInt64)

namespace Row

def xor (r s : Row) : Row :=
  ⟨r.a ^^^ s.a, r.b ^^^ s.b, r.c ^^^ s.c, r.d ^^^ s.d, r.e ^^^ s.e⟩

def mix (p : Row) : Row :=
  ⟨p.e ^^^ rotate p.b 1, p.a ^^^ rotate p.c 1, p.b ^^^ rotate p.d 1, p.c ^^^ rotate p.e 1,
   p.d ^^^ rotate p.a 1⟩

def bend (r : Row) : Row :=
  ⟨r.a ^^^ (~~~r.b &&& r.c), r.b ^^^ (~~~r.c &&& r.d), r.c ^^^ (~~~r.d &&& r.e),
   r.d ^^^ (~~~r.e &&& r.a), r.e ^^^ (~~~r.a &&& r.b)⟩

end Row

structure Lanes where
  (v w x y z : Row)

namespace Lanes

def state (s : Lanes) : State :=
  #v[s.v.a, s.v.b, s.v.c, s.v.d, s.v.e,
     s.w.a, s.w.b, s.w.c, s.w.d, s.w.e,
     s.x.a, s.x.b, s.x.c, s.x.d, s.x.e,
     s.y.a, s.y.b, s.y.c, s.y.d, s.y.e,
     s.z.a, s.z.b, s.z.c, s.z.d, s.z.e]

def diffuse (s : Lanes) : Lanes :=
  let d := ((((s.v.xor s.w).xor s.x).xor s.y).xor s.z).mix
  ⟨s.v.xor d, s.w.xor d, s.x.xor d, s.y.xor d, s.z.xor d⟩

def permute (s : Lanes) : Lanes where
  v := ⟨rotate s.v.a 0, rotate s.w.b 44, rotate s.x.c 43, rotate s.y.d 21, rotate s.z.e 14⟩
  w := ⟨rotate s.v.d 28, rotate s.w.e 20, rotate s.x.a 3, rotate s.y.b 45, rotate s.z.c 61⟩
  x := ⟨rotate s.v.b 1, rotate s.w.c 6, rotate s.x.d 25, rotate s.y.e 8, rotate s.z.a 18⟩
  y := ⟨rotate s.v.e 27, rotate s.w.a 36, rotate s.x.b 10, rotate s.y.c 15, rotate s.z.d 56⟩
  z := ⟨rotate s.v.c 62, rotate s.w.d 55, rotate s.x.e 39, rotate s.y.a 41, rotate s.z.b 2⟩

def bend (s : Lanes) : Lanes :=
  ⟨s.v.bend, s.w.bend, s.x.bend, s.y.bend, s.z.bend⟩

def round (s : Lanes) (c : UInt64) : Lanes :=
  let t := bend (permute (diffuse s))
  { t with v := { t.v with a := t.v.a ^^^ c } }

def shuffle (s : Lanes) : Lanes :=
  constants.foldl round s

lemma diffuse_state (s : Lanes) : Keccak.diffuse s.state = s.diffuse.state := by
  refine Vector.ext fun i hi => ?_
  simp only [Keccak.diffuse, Keccak.columns, Vector.getElem_ofFn]
  interval_cases i <;> simp [diffuse, state, Row.xor, Row.mix]

lemma permute_state (s : Lanes) : Keccak.permute s.state = s.permute.state := by
  refine Vector.ext fun i hi => ?_
  rw [Keccak.permute, Vector.getElem_ofFn]
  interval_cases i <;> simp [permute, state, offsets]

lemma bend_state (s : Lanes) : Keccak.bend s.state = s.bend.state := by
  refine Vector.ext fun i hi => ?_
  rw [Keccak.bend, Vector.getElem_ofFn]
  interval_cases i <;> simp [bend, state, Row.bend]

lemma round_state (s : Lanes) (c : UInt64) : Keccak.round s.state c = (s.round c).state := by
  rw [Keccak.round, diffuse_state, permute_state, bend_state]
  rfl

lemma shuffle_state (s : Lanes) : Keccak.shuffle s.state = s.shuffle.state := by
  rw [Keccak.shuffle, shuffle]
  induction constants generalizing s with
  | nil => rfl
  | cons c cs ih => rw [List.foldl_cons, round_state, ih, List.foldl_cons]

def blank : Lanes :=
  ⟨⟨0, 0, 0, 0, 0⟩, ⟨0, 0, 0, 0, 0⟩, ⟨0, 0, 0, 0, 0⟩, ⟨0, 0, 0, 0, 0⟩, ⟨0, 0, 0, 0, 0⟩⟩

def absorb (s : Lanes) (block : Bytes) : Lanes :=
  let word := fun i => lane ((block.drop (8 * i)).take 8)
  shuffle
    ⟨s.v.xor ⟨word 0, word 1, word 2, word 3, word 4⟩,
     s.w.xor ⟨word 5, word 6, word 7, word 8, word 9⟩,
     s.x.xor ⟨word 10, word 11, word 12, word 13, word 14⟩,
     s.y.xor ⟨word 15, word 16, 0, 0, 0⟩, s.z⟩

lemma absorb_state (s : Lanes) (block : Bytes) :
    Keccak.absorb s.state block = (s.absorb block).state := by
  rw [Keccak.absorb, absorb, ← shuffle_state]
  refine congrArg Keccak.shuffle (Vector.ext fun i hi => ?_)
  rw [Vector.getElem_ofFn]
  interval_cases i <;> simp [state, Row.xor]

def absorbAll : ℕ → Lanes → Bytes → Lanes
  | 0, s, _ => s
  | n + 1, s, b => absorbAll n (absorb s (b.take rate)) (b.drop rate)

lemma absorbAll_state (n : ℕ) (s : Lanes) (b : Bytes) :
    Keccak.absorbAll n s.state b = (absorbAll n s b).state := by
  induction n generalizing s b with
  | zero => rfl
  | succ n ih => rw [Keccak.absorbAll, absorb_state, ih, absorbAll]

def digest (b : Bytes) : Bytes :=
  let s := absorbAll ((pad b).length / rate) blank (pad b)
  laneBytes s.v.a ++ laneBytes s.v.b ++ laneBytes s.v.c ++ laneBytes s.v.d

lemma digest_eq (b : Bytes) : Keccak.digest b = digest b := by
  have hb : Vector.replicate 25 0 = blank.state := rfl
  rw [Keccak.digest, hb, absorbAll_state]
  rfl

end Lanes

end Keccak

lemma keccak_eq (b : Bytes) : keccak b = Word.ofBytes (Keccak.Lanes.digest b) :=
  congrArg Word.ofBytes (Keccak.Lanes.digest_eq b)

example : keccak [] = 0xc5d2460186f7233c927e7db2dcc703c0e500b653ca82273b7bfad8045d85a470 := by
  rw [keccak_eq]
  decide +kernel

end Attestation
