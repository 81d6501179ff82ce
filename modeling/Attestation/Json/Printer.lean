import Attestation.Decimal.Shortest
import Attestation.Json

/-!
Compact JSON text: no blanks, members in their order, integers in full, other numbers in the
shortest digits.
-/

namespace Attestation.Json

namespace Printer

def escape (c : Char) : List Char :=
  match c with
  | '"' => ['\\', '"']
  | '\\' => ['\\', '\\']
  | '\x08' => ['\\', 'b']
  | '\x0c' => ['\\', 'f']
  | '\n' => ['\\', 'n']
  | '\r' => ['\\', 'r']
  | '\t' => ['\\', 't']
  | c =>
    if c.toNat < 0x20 then ['\\', 'u', '0', '0'] ++ Hex.ofByte (UInt8.ofNat c.toNat) else [c]

def quote (s : String) : String :=
  String.ofList ('"' :: s.toList.flatMap escape ++ ['"'])

def number : JsonNumber → String
  | .whole negative magnitude => (if negative then "-" else "") ++ toString magnitude
  | .scientific negative digits exponent =>
    Decimal.Style.json.render negative ⟨digits, exponent⟩

def commas : List String → String :=
  String.intercalate ","

mutual

def element : Json → String
  | null => "null"
  | bool true => "true"
  | bool false => "false"
  | .number n => number n
  | string s => quote s
  | array xs => "[" ++ commas (items xs) ++ "]"
  | object ms => "\x7b" ++ commas (members ms) ++ "\x7d"

def items : List Json → List String
  | [] => []
  | x :: xs => element x :: items xs

def members : List (String × Json) → List String
  | [] => []
  | (name, x) :: ms => (quote name ++ ":" ++ element x) :: members ms

end

end Printer

def compact (j : Json) : String :=
  Printer.element j

end Attestation.Json
