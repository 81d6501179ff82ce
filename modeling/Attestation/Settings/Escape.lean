import Attestation.Hex

/-!
Quoted settings: a tab and all that is no control character stand for themselves, the others
behind a backslash as letters or as codes of four or eight hexadecimal digits.
-/

namespace Attestation.Settings.Escape

def isPlain (c : Char) : Bool :=
  c == '\t' || (0x20 ≤ c.toNat && c.toNat != 0x7F)

def letter? : Char → Option Char
  | '"' => some '"'
  | '\\' => some '\\'
  | 'b' => some '\x08'
  | 'f' => some '\x0c'
  | 'n' => some '\n'
  | 'r' => some '\r'
  | 't' => some '\t'
  | _ => none

def code? (ds : List Char) : Option Char := do
  let n ← ds.foldlM (fun n c => (Hex.value? c).map (16 * n + ·)) 0
  if n < 0xD800 ∨ (0xDFFF < n ∧ n < 0x110000) then some (Char.ofNat n) else none

/-- The characters up to the closing quote, the last one first in `acc`, and what follows it. -/
def text (acc : List Char) : List Char → Option (String × List Char)
  | '"' :: r => some (String.ofList acc.reverse, r)
  | '\\' :: 'u' :: a :: b :: c :: d :: r =>
    match code? [a, b, c, d] with
    | some x => text (x :: acc) r
    | none => none
  | '\\' :: 'U' :: a :: b :: c :: d :: e :: f :: g :: h :: r =>
    match code? [a, b, c, d, e, f, g, h] with
    | some x => text (x :: acc) r
    | none => none
  | '\\' :: e :: r =>
    match letter? e with
    | some c => text (c :: acc) r
    | none => none
  | c :: r => if isPlain c then text (c :: acc) r else none
  | [] => none

end Attestation.Settings.Escape
