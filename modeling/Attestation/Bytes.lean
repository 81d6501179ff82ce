/-!
Byte strings: big-endian numbers, padding, UTF-8.
-/

namespace Attestation

abbrev Bytes := List UInt8

namespace Bytes

/-- The last `width` base-256 digits of a number, most significant first. -/
def ofNat : Nat → Nat → Bytes
  | 0, _ => []
  | width + 1, n => ofNat width (n / 256) ++ [UInt8.ofNat n]

/-- The number whose base-256 digits are the given bytes, most significant first. -/
def toNat (b : Bytes) : Nat :=
  b.foldl (fun n x => 256 * n + x.toNat) 0

/-- The least number of bytes that hold `n`; zero needs none. -/
def needed (n : Nat) : Nat :=
  if n = 0 then 0 else needed (n / 256) + 1
termination_by n
decreasing_by omega

/-- Zero bytes in front, up to the given width; longer strings stay as they are. -/
def padLeft (width : Nat) (b : Bytes) : Bytes :=
  List.replicate (width - b.length) 0 ++ b

/-- Zero bytes behind, up to a multiple of the given width. -/
def padRight (width : Nat) (b : Bytes) : Bytes :=
  b ++ List.replicate ((width - b.length % width) % width) 0

def ofText (s : String) : Bytes :=
  s.toUTF8.data.toList

@[simp] theorem length_ofNat (width n : Nat) : (ofNat width n).length = width := by
  induction width generalizing n with
  | zero => rfl
  | succ width ih => simp [ofNat, ih]

theorem toNat_concat (b : Bytes) (x : UInt8) : toNat (b ++ [x]) = 256 * toNat b + x.toNat := by
  simp [toNat]

end Bytes

end Attestation
