import Attestation.Error
import Attestation.Hash
import Attestation.Text.Blank

/-!
Numbers as callers write them: a word, a signed number of 128 bits, or text, decimal or hexadecimal
behind `0x`. A numeral keeps its form; its value is taken when it is encoded or compared.
-/

namespace Attestation

inductive Numeral
  | unsigned (value : Word)
  | signed (value : BitVec 128)
  | text (value : String)
  deriving DecidableEq, Repr

namespace Numeral

inductive Trouble
  | negative
  | unreadable (written : String)
  deriving DecidableEq, Repr

def Trouble.at (key : String) : Trouble → Error
  | negative => .negativeValue key
  | unreadable written => .invalidNumber written

/-- The value of a digit, where the base has that digit. -/
def digit? (base : Nat) (c : Char) : Option Nat :=
  (Hex.value? c).filter (· < base)

/-- Digits of the base, first the most significant; an underscore stands for nothing. -/
def digits? (base : Nat) (cs : List Char) : Option Nat :=
  cs.foldlM (fun n c => if c = '_' then some n else (digit? base c).map (base * n + ·)) 0

/-- The base that the text announces, and its digits. -/
def radix : List Char → Nat × List Char
  | '0' :: 'x' :: cs => (16, cs)
  | '0' :: 'X' :: cs => (16, cs)
  | cs => (10, cs)

/-- The value of a text without a sign; a failure names the given text. -/
def magnitude (whole cs : List Char) : Except Trouble Word :=
  let (base, ds) := radix cs
  match if ds.isEmpty then none else digits? base ds with
  | some n =>
    if n < 1 <<< 256 then .ok (BitVec.ofNat 256 n) else .error (.unreadable (String.ofList whole))
  | none => .error (.unreadable (String.ofList whole))

/-- White space at both ends is dropped. Behind a minus sign comes a text again, and only zero has
a value there. -/
def textValue (cs : List Char) : Except Trouble Word :=
  match trimmed : Text.trim cs with
  | '-' :: rest =>
    have : rest.length < cs.length := by
      have := Text.length_trim_le cs
      rwa [trimmed] at this
    match textValue rest with
    | .ok 0 => .ok 0
    | .ok _ => .error .negative
    | .error e => .error e
  | bare => magnitude cs bare
termination_by cs.length

def value : Numeral → Except Trouble Word
  | unsigned n => .ok n
  | signed n => if n.toInt < 0 then .error .negative else .ok (BitVec.ofNat 256 n.toNat)
  | text s => textValue s.toList

def resolve (n : Numeral) (key : String) : Except Error Word :=
  n.value.mapError (·.at key)

/-- The value for the field `key`, if it fits 64 bits. -/
def resolve64 (n : Numeral) (key : String) : Except Error UInt64 := do
  let w ← n.resolve key
  if w.toNat < UInt64.size then return UInt64.ofNat w.toNat
  else throw (.fieldTooLong key 8 (Bytes.needed w.toNat))

/-- Numerals with a value are the same when their values are; numerals without one, when they are
written alike. -/
def same (a b : Numeral) : Bool :=
  match a.value, b.value with
  | .ok x, .ok y => x == y
  | .error _, .error _ => decide (a = b)
  | _, _ => false

instance : BEq Numeral := ⟨same⟩

def ofNat (n : Nat) : Numeral :=
  unsigned (BitVec.ofNat 256 n)

def ofInt (n : Int) : Numeral :=
  signed (BitVec.ofInt 128 n)

instance : Inhabited Numeral := ⟨ofNat 0⟩

def render : Numeral → String
  | unsigned n => toString n.toNat
  | signed n => toString n.toInt
  | text s => s

end Numeral

end Attestation
