import Attestation.Settings.Escape
import Attestation.Settings.Number
import Attestation.Settings.Value

/-!
Settings files in TOML: comments, keys with texts, integers, floats and truth values, and tables
behind headers in brackets. A key may stand only once in its table.
-/

namespace Attestation.Settings.Toml

def isBlank (c : Char) : Bool :=
  c == ' ' || c == '\t'

def skip (cs : List Char) : List Char :=
  cs.dropWhile isBlank

def isKeyChar (c : Char) : Bool :=
  c.isAlphanum || c == '_' || c == '-'

/-- Lines of a file; a carriage return in front of the end of a line belongs to the end. -/
def lines (line : List Char) : List Char → List (List Char)
  | [] => [line.reverse]
  | '\r' :: '\n' :: r => line.reverse :: lines [] r
  | '\n' :: r => line.reverse :: lines [] r
  | c :: r => lines (c :: line) r

/-- Whether only blanks and a comment are left of a line. -/
def isOver (cs : List Char) : Bool :=
  match skip cs with
  | [] => true
  | '#' :: r => r.all Escape.isPlain
  | _ => false

/-- The text up to the next apostrophe, as it stands. -/
def literal? (cs : List Char) : Option (String × List Char) :=
  let s := cs.takeWhile fun c => c != '\'' && Escape.isPlain c
  match cs.drop s.length with
  | '\'' :: r => some (String.ofList s, r)
  | _ => none

def key? : List Char → Option (String × List Char)
  | '"' :: r => Escape.text [] r
  | '\'' :: r => literal? r
  | cs =>
    let k := cs.takeWhile isKeyChar
    if k.isEmpty then none else some (String.ofList k, cs.dropWhile isKeyChar)

/-- Digits without the underscores, each of which stands between two digits. -/
def digits? (isDigit : Char → Bool) : List Char → Option (List Char)
  | [] => none
  | [c] => if isDigit c then some [c] else none
  | c :: '_' :: r => if isDigit c then (digits? isDigit r).map (c :: ·) else none
  | c :: r => if isDigit c then (digits? isDigit r).map (c :: ·) else none

/-- Digits of a base, at least one. -/
def radix? (base : Nat) (cs : List Char) : Option Int := do
  let ds ← digits? (fun c => (Hex.value? c).any (· < base)) cs
  return (ds.foldl (fun n c => base * n + (Hex.value? c).getD 0) 0 : Nat)

/-- Decimal digits without a zero in front. -/
def whole? (cs : List Char) : Option (List Char) := do
  let ds ← digits? Number.isDigit cs
  if ds.length > 1 && ds.head? == some '0' then none else some ds

/-- Whether an integer fits 64 bits with a sign. -/
def bounded (i : Int) : Option Value :=
  if Int64.minValue.toInt ≤ i ∧ i ≤ Int64.maxValue.toInt then some (.integer i) else none

/-- The exponent behind a number, which may begin with zeros. -/
def exponent? : List Char → Option Int
  | [] => some 0
  | e :: cs =>
    if e == 'e' || e == 'E' then
      let (negative, cs) := Number.sign cs
      (digits? Number.isDigit cs).map fun ds =>
        if negative then -(Number.value ds : Int) else Number.value ds
    else none

def isNumberChar (c : Char) : Bool :=
  Number.isDigit c || c == '_'

/-- A float, unless it lies above all that are finite. -/
def notAbove (x : Float) : Option Value :=
  if x.isInf && 0 < x then none else some (.float x)

/-- A decimal number: an integer without, a float with a fraction or an exponent. -/
def number? (cs : List Char) : Option Value := do
  let (negative, cs) := Number.sign cs
  let whole ← whole? (cs.takeWhile isNumberChar)
  match cs.dropWhile isNumberChar with
  | [] =>
    let n : Int := Number.value whole
    bounded (if negative then -n else n)
  | '.' :: r =>
    let fraction ← digits? Number.isDigit (r.takeWhile isNumberChar)
    let exponent ← exponent? (r.dropWhile isNumberChar)
    notAbove (Number.float negative whole fraction exponent)
  | r => notAbove (Number.float negative whole [] (← exponent? r))

def word? (cs : List Char) : Option Value :=
  match String.ofList cs with
  | "true" => some (.bool true)
  | "false" => some (.bool false)
  | "inf" | "+inf" => some (.float Decimal.Binary.infinity)
  | "-inf" => some (.float (-Decimal.Binary.infinity))
  | "nan" | "+nan" | "-nan" => some (.float (0 / 0))
  | _ =>
    match cs with
    | '0' :: 'x' :: ds => (radix? 16 ds).bind bounded
    | '0' :: 'o' :: ds => (radix? 8 ds).bind bounded
    | '0' :: 'b' :: ds => (radix? 2 ds).bind bounded
    | _ => number? cs

def isWordChar (c : Char) : Bool :=
  c.isAlphanum || c == '_' || c == '-' || c == '+' || c == '.'

def value? : List Char → Option (Value × List Char)
  | '"' :: r => (Escape.text [] r).map fun (s, r) => (.text s, r)
  | '\'' :: r => (literal? r).map fun (s, r) => (.text s, r)
  | cs => (word? (cs.takeWhile isWordChar)).map fun v => (v, cs.dropWhile isWordChar)

inductive Line
  | blank
  | header (name : String)
  | entry (key : String) (value : Value)

def line? (cs : List Char) : Option Line :=
  let cs := skip cs
  if isOver cs then some .blank
  else
    match cs with
    | '[' :: r => do
      let (name, r) ← key? (skip r)
      let ']' :: r := skip r | none
      if isOver r then some (.header name) else none
    | _ => do
      let (key, r) ← key? cs
      let '=' :: r := skip r | none
      let (value, r) ← value? (skip r)
      if isOver r then some (.entry key value) else none

/-- What the lines up to here say: the keys at the top, and the open table. -/
structure Reading where
  top : Layer
  table : Option (String × Layer)

namespace Reading

def start : Reading :=
  ⟨[], none⟩

/-- The keys at the top and the open table among them. -/
def close (r : Reading) : Layer :=
  match r.table with
  | none => r.top
  | some (name, entries) => r.top ++ [(name, .table entries)]

def step? (r : Reading) : Line → Option Reading
  | .blank => some r
  | .header name =>
    let top := r.close
    if top.any (·.1 == name) then none else some ⟨top, some (name, [])⟩
  | .entry key value =>
    match r.table with
    | none =>
      if r.top.any (·.1 == key) then none else some { r with top := r.top ++ [(key, value)] }
    | some (name, entries) =>
      if entries.any (·.1 == key) then none
      else some { r with table := some (name, entries ++ [(key, value)]) }

end Reading

/-- A byte order mark in front of a file is no part of it. -/
def unmarked : List Char → List Char
  | '\ufeff' :: cs => cs
  | cs => cs

/-- The settings of a file, unless it is malformed. -/
def layer? (s : String) : Option Layer := do
  let ls ← (lines [] (unmarked s.toList)).mapM line?
  let r ← ls.foldlM Reading.step? .start
  return r.close

end Attestation.Settings.Toml
