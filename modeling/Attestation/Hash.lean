import Attestation.Hex
import Attestation.Keccak

/-!
Words of 256 bits and the hashes that are such words. The order of hashes as byte strings is the
order of the words as numbers.
-/

namespace Attestation

abbrev Word := BitVec 256

abbrev Hash := Word

namespace Word

/-- The 32 bytes of a word, most significant first. -/
def toBytes (w : Word) : Bytes :=
  Bytes.ofNat 32 w.toNat

def ofBytes (b : Bytes) : Word :=
  BitVec.ofNat 256 (Bytes.toNat b)

@[simp] theorem length_toBytes (w : Word) : (toBytes w).length = 32 :=
  Bytes.length_ofNat 32 w.toNat

end Word

namespace Hash

def zero : Hash := 0

/-- A hash from exactly 32 bytes. -/
def ofBytes? (b : Bytes) : Option Hash :=
  if b.length = 32 then some (Word.ofBytes b) else none

/-- A hash from 64 hexadecimal digits, with or without `0x` or `0X`. -/
def ofText? (s : String) : Option Hash :=
  (Hex.decode? s).bind ofBytes?

def toText (h : Hash) : String :=
  Hex.encode (Word.toBytes h)

end Hash

def keccak (b : Bytes) : Hash :=
  Word.ofBytes (Keccak.digest b)

end Attestation
