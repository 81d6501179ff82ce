import Attestation.Bytes

/-!
The Keccak-256 sponge: 1600 bits of state in 25 lanes of 64 bits, 136 bytes absorbed at a time,
the first padding byte `0x01`, 32 bytes squeezed.
-/

namespace Attestation.Keccak

abbrev State := Vector UInt64 25

/-- Rotation offset of the lane in column `i % 5` and row `i / 5`. -/
def offsets : Vector UInt64 25 :=
  #v[0, 1, 62, 28, 27,
     36, 44, 6, 55, 20,
     3, 10, 43, 25, 39,
     41, 45, 15, 21, 8,
     18, 2, 61, 56, 14]

def constants : List UInt64 :=
  [0x0000000000000001, 0x0000000000008082, 0x800000000000808a, 0x8000000080008000,
   0x000000000000808b, 0x0000000080000001, 0x8000000080008081, 0x8000000000008009,
   0x000000000000008a, 0x0000000000000088, 0x0000000080008009, 0x000000008000000a,
   0x000000008000808b, 0x800000000000008b, 0x8000000000008089, 0x8000000000008003,
   0x8000000000008002, 0x8000000000000080, 0x000000000000800a, 0x800000008000000a,
   0x8000000080008081, 0x8000000000008080, 0x0000000080000001, 0x8000000080008008]

def rotate (x k : UInt64) : UInt64 :=
  if k = 0 then x else (x <<< k) ||| (x >>> (64 - k))

def columns (s : State) : Vector UInt64 5 :=
  Vector.ofFn fun x : Fin 5 =>
    s[x.val] ^^^ s[x.val + 5] ^^^ s[x.val + 10] ^^^ s[x.val + 15] ^^^ s[x.val + 20]

/-- Each lane is mixed with the parities of the two neighbouring columns. -/
def diffuse (s : State) : State :=
  let parity := columns s
  let d : Vector UInt64 5 := Vector.ofFn fun x : Fin 5 =>
    parity[(x.val + 4) % 5] ^^^ rotate parity[(x.val + 1) % 5] 1
  Vector.ofFn fun i : Fin 25 => s[i.val] ^^^ d[i.val % 5]

/-- Lanes are rotated and moved: column `x`, row `y` takes the lane of column `x + 3y`, row `x`. -/
def permute (s : State) : State :=
  Vector.ofFn fun i : Fin 25 =>
    let j := (i.val % 5 + 3 * (i.val / 5)) % 5 + 5 * (i.val % 5)
    rotate s[j] offsets[j]

/-- The only step that is not linear, along each row. -/
def bend (s : State) : State :=
  Vector.ofFn fun i : Fin 25 =>
    let row := 5 * (i.val / 5)
    s[i.val] ^^^ (~~~s[row + (i.val + 1) % 5] &&& s[row + (i.val + 2) % 5])

def round (s : State) (c : UInt64) : State :=
  let t := bend (permute (diffuse s))
  t.set 0 (t[0] ^^^ c)

def shuffle (s : State) : State :=
  constants.foldl round s

def lane (b : Bytes) : UInt64 :=
  b.foldr (fun x acc => acc <<< 8 ||| x.toUInt64) 0

def laneBytes (x : UInt64) : Bytes :=
  [x.toUInt8, (x >>> 8).toUInt8, (x >>> 16).toUInt8, (x >>> 24).toUInt8,
   (x >>> 32).toUInt8, (x >>> 40).toUInt8, (x >>> 48).toUInt8, (x >>> 56).toUInt8]

def rate : Nat := 136

/-- A first padding byte `0x01`, zeros, and the top bit of the last byte of the block. -/
def pad (b : Bytes) : Bytes :=
  let gap := rate - b.length % rate
  if gap = 1 then b ++ [0x81]
  else b ++ 0x01 :: (List.replicate (gap - 2) 0 ++ [0x80])

def absorb (s : State) (block : Bytes) : State :=
  let lanes := (List.range 17).map fun i => lane ((block.drop (8 * i)).take 8)
  shuffle (Vector.ofFn fun i : Fin 25 => s[i.val] ^^^ lanes.getD i.val 0)

def absorbAll : Nat → State → Bytes → State
  | 0, s, _ => s
  | n + 1, s, b => absorbAll n (absorb s (b.take rate)) (b.drop rate)

def digest (b : Bytes) : Bytes :=
  let padded := pad b
  let s := absorbAll (padded.length / rate) (Vector.replicate 25 0) padded
  laneBytes s[0] ++ laneBytes s[1] ++ laneBytes s[2] ++ laneBytes s[3]

theorem length_digest (b : Bytes) : (digest b).length = 32 := by
  simp [digest, laneBytes]

end Attestation.Keccak
