import Attestation.Bytes

/-!
Hexadecimal text of byte strings, two digits a byte. Written in lower case behind `0x`; read in
either case, with or without `0x` or `0X`.
-/

namespace Attestation.Hex

def digit (n : Nat) : Char :=
  if n < 10 then Char.ofNat (48 + n) else Char.ofNat (87 + n)

def value? (c : Char) : Option Nat :=
  if '0' ≤ c ∧ c ≤ '9' then some (c.toNat - 48)
  else if 'a' ≤ c ∧ c ≤ 'f' then some (c.toNat - 87)
  else if 'A' ≤ c ∧ c ≤ 'F' then some (c.toNat - 55)
  else none

def ofByte (x : UInt8) : List Char :=
  [digit (x.toNat / 16), digit (x.toNat % 16)]

def encode (b : Bytes) : String :=
  String.ofList ('0' :: 'x' :: b.flatMap ofByte)

/-- The text behind an optional `0x` or `0X`. -/
def body : List Char → List Char
  | '0' :: 'x' :: cs => cs
  | '0' :: 'X' :: cs => cs
  | cs => cs

def pairs? : List Char → Option Bytes
  | [] => some []
  | [_] => none
  | hi :: lo :: cs => do
    let h ← value? hi
    let l ← value? lo
    let rest ← pairs? cs
    return UInt8.ofNat (16 * h + l) :: rest

def decode? (s : String) : Option Bytes :=
  pairs? (body s.toList)

end Attestation.Hex
