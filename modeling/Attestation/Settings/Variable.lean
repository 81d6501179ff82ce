import Attestation.Settings.Number
import Attestation.Settings.Escape
import Attestation.Settings.Value
import Attestation.Text.Blank

/-!
Environment variables as settings. The name behind the common start is the key, and the text says by
its looks which type its value has. A text that is no such value as a whole is a text.
-/

namespace Attestation.Settings.Variable

/-- With which the names of all variables begin, in letters of either case. -/
def start : String := "ATTESTOR_"

def skip (cs : List Char) : List Char :=
  cs.dropWhile Text.isAsciiBlank

def isSeparator (c : Char) : Bool :=
  c == ',' || c == '\x7b' || c == '\x7d' || c == '[' || c == ']'

/-- A float is written with a point. -/
def float? (cs : List Char) : Option Float :=
  let (negative, cs) := Number.sign cs
  let whole := cs.takeWhile Number.isDigit
  match cs.dropWhile Number.isDigit with
  | '.' :: r =>
    let fraction := r.takeWhile Number.isDigit
    if whole.isEmpty && fraction.isEmpty then none
    else (Number.exponent? (r.dropWhile Number.isDigit)).map
      (Number.float negative whole fraction ·)
  | _ => none

/-- An integer of 64 bits, with or without a sign. -/
def integer? (cs : List Char) : Option Int :=
  let (negative, ds) := Number.sign cs
  if ds.isEmpty || !ds.all Number.isDigit then none
  else
    let n : Int := Number.value ds
    if negative then if n ≤ 1 <<< 63 then some (-n) else none
    else if n < UInt64.size then some n else none

/-- A value without quotes and brackets. -/
def bare (cs : List Char) : Value :=
  match float? cs with
  | some x => .float x
  | none =>
    match integer? cs with
    | some i => .integer i
    | none => .text (String.ofList cs)

def isNameChar (c : Char) : Bool :=
  c.isAlphanum || c == '_' || c == '-'

/-- As many of the characters as have room in so many bytes. -/
def fit : Nat → List Char → List Char
  | _, [] => []
  | room, c :: cs => if c.utf8Size ≤ room then c :: fit (room - c.utf8Size) cs else []

/-- The text up to the closing quote. What stands in front of its first escape is kept in as many
bytes as it has characters. -/
def quoted? (cs : List Char) : Option (String × List Char) :=
  let head := cs.takeWhile fun c => c != '"' && c != '\\'
  let rest := cs.drop head.length
  if rest.head? = some '\\' && head.all Escape.isPlain then
    Escape.text (fit head.length head).reverse rest
  else Escape.text [] cs

/-- The name of an entry in a table. -/
def name? : List Char → Option (String × List Char)
  | '"' :: r => quoted? r
  | cs =>
    let n := cs.takeWhile isNameChar
    if n.isEmpty then none else some (String.ofList n, cs.dropWhile isNameChar)

mutual

/-- The value in front of a text and what follows it and the blanks behind it. -/
def value? : (fuel : Nat) → List Char → Option (Value × List Char)
  | 0, _ => none
  | fuel + 1, cs =>
    match skip cs with
    | 't' :: 'r' :: 'u' :: 'e' :: r => some (.bool true, skip r)
    | 'f' :: 'a' :: 'l' :: 's' :: 'e' :: r => some (.bool false, skip r)
    | '\x7b' :: r => (entries? fuel r).map fun (es, r) => (.table es, skip r)
    | '[' :: r => (items? fuel r).map fun (xs, r) => (.list xs, skip r)
    | '"' :: r => (quoted? r).map fun (s, r) => (.text s, skip r)
    | '\'' :: r =>
      match r with
      | c :: '\'' :: r => some (.text (String.ofList [c]), skip r)
      | _ => none
    | r =>
      some (bare (Text.trim (r.takeWhile (!isSeparator ·))), skip (r.dropWhile (!isSeparator ·)))

/-- Values up to the closing bracket; a comma may stand behind the last one. -/
def items? : (fuel : Nat) → List Char → Option (List Value × List Char)
  | 0, _ => none
  | _ + 1, ']' :: r => some ([], r)
  | fuel + 1, cs =>
    match value? fuel cs with
    | some (v, ',' :: r) => (items? fuel r).map fun (vs, r) => (v :: vs, r)
    | some (v, ']' :: r) => some ([v], r)
    | _ => none

def entries? : (fuel : Nat) → List Char → Option (Layer × List Char)
  | 0, _ => none
  | _ + 1, '\x7d' :: r => some ([], r)
  | fuel + 1, cs =>
    match name? (skip cs) with
    | none => none
    | some (n, r) =>
      match skip r with
      | '=' :: r =>
        match value? fuel r with
        | some (v, ',' :: r) => (entries? fuel r).map fun (es, r) => ((n, v) :: es, r)
        | some (v, '\x7d' :: r) => some ([(n, v)], r)
        | _ => none
      | _ => none

end

/-- The value of a variable; every character opens at most two calls. -/
def value (s : String) : Value :=
  let cs := s.toList
  match value? (2 * cs.length + 2) cs with
  | some (v, []) => v
  | _ => .text s

/-- A value under the parts of a key. -/
def nest (v : Value) : List String → Value
  | [] => v
  | k :: ks => .table [(k, nest v ks)]

/-- The setting of a variable, where its name makes it one. Points in the name lead into tables, and
no part between them is empty. -/
def setting? (name text : String) : Option (String × Value) :=
  let cs := Text.trim name.toList
  let n := start.length
  if (cs.take n).map Char.toUpper = start.toList then
    let key := String.ofList ((Text.trim (cs.drop n)).map Char.toLower)
    match key.splitOn "." with
    | k :: ks => if (k :: ks).any String.isEmpty then none else some (k, nest (value text) ks)
    | [] => none
  else none

/-- The settings of the environment; of two with one key the later one holds. -/
def layer (environment : List (String × String)) : Layer :=
  environment.filterMap fun v => setting? v.1 v.2

end Attestation.Settings.Variable
