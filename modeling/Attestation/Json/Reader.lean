import Attestation.Json.Float

/-!
Reading JSON values off the front of a text: strictly the grammar, surrogate escapes in pairs, no
number beyond the floats, and a bound on the arrays and objects around one another. A value may also
be passed over, which asks for nothing but the grammar.
-/

namespace Attestation.Json.Reader

/-- A reading takes something off the front of a text. -/
abbrev Reading (α : Type) := List Char → Option (α × List Char)

def isBlank (c : Char) : Bool :=
  c == ' ' || c == '\n' || c == '\t' || c == '\r'

def isDigit (c : Char) : Bool :=
  '0' ≤ c && c ≤ '9'

def digit (c : Char) : Nat :=
  c.toNat - 48

def skip (cs : List Char) : List Char :=
  cs.dropWhile isBlank

def hex4? (a b c d : Char) : Option Nat := do
  let w ← Hex.value? a
  let x ← Hex.value? b
  let y ← Hex.value? c
  let z ← Hex.value? d
  return 4096 * w + 256 * x + 16 * y + z

def simpleEscape? : Char → Option Char
  | '"' => some '"'
  | '\\' => some '\\'
  | '/' => some '/'
  | 'b' => some '\x08'
  | 'f' => some '\x0c'
  | 'n' => some '\n'
  | 'r' => some '\r'
  | 't' => some '\t'
  | _ => none

def isHighSurrogate (n : Nat) : Bool :=
  0xD800 ≤ n && n < 0xDC00

def isLowSurrogate (n : Nat) : Bool :=
  0xDC00 ≤ n && n < 0xE000

/-- The characters up to the closing quote. The last one comes first in `acc`. -/
def text (acc : List Char) : Reading String
  | '"' :: r => some (String.ofList acc.reverse, r)
  | '\\' :: 'u' :: a :: b :: c :: d :: r =>
    match hex4? a b c d with
    | none => none
    | some n =>
      if isLowSurrogate n then none
      else if isHighSurrogate n then
        match r with
        | '\\' :: 'u' :: e :: f :: g :: h :: r =>
          match hex4? e f g h with
          | none => none
          | some m =>
            if isLowSurrogate m then
              text (Char.ofNat (0x10000 + 0x400 * (n - 0xD800) + (m - 0xDC00)) :: acc) r
            else none
        | _ => none
      else text (Char.ofNat n :: acc) r
  | '\\' :: e :: r =>
    match simpleEscape? e with
    | none => none
    | some c => text (c :: acc) r
  | c :: r => if c.toNat < 0x20 then none else text (c :: acc) r
  | [] => none

/-- Passes over the characters up to the closing quote, whatever escapes stand for. -/
def passText : Reading Unit
  | '"' :: r => some ((), r)
  | '\\' :: 'u' :: a :: b :: c :: d :: r => if (hex4? a b c d).isSome then passText r else none
  | '\\' :: e :: r => if (simpleEscape? e).isSome then passText r else none
  | c :: r => if c.toNat < 0x20 then none else passText r
  | [] => none

/-- Digits kept in 64 bits, and how many digits came after them. -/
def keep (digits : Nat) : List Char → Nat × Nat
  | [] => (digits, 0)
  | c :: cs =>
    let more := 10 * digits + digit c
    if more < UInt64.size then keep more cs else (digits, (c :: cs).length)

/-- Digits behind the point, as long as 64 bits hold them, and how many were kept. -/
def keepFraction (digits used : Nat) : List Char → Nat × Nat
  | [] => (digits, used)
  | c :: cs =>
    let more := 10 * digits + digit c
    if more < UInt64.size then keepFraction more (used + 1) cs else (digits, used)

def natural (ds : List Char) : Nat :=
  ds.foldl (fun n c => 10 * n + digit c) 0

/-- The exponent of a number, where there is one: none inside if it has no digits. -/
def exponent : Reading (Option Int)
  | e :: r =>
    if e == 'e' || e == 'E' then
      let (negative, r) := match r with
        | '+' :: r => (false, r)
        | '-' :: r => (true, r)
        | r => (false, r)
      let ds := r.takeWhile isDigit
      if ds.isEmpty then none
      else
        let n : Int := natural ds
        some (some (if negative then -n else n), r.dropWhile isDigit)
    else some (none, e :: r)
  | [] => some (none, [])

/-- The digits behind a point, where there is one. -/
def fraction : Reading (Option (List Char))
  | '.' :: r =>
    let ds := r.takeWhile isDigit
    if ds.isEmpty then none else some (some ds, r.dropWhile isDigit)
  | r => some (none, r)

/-- A number behind its sign. -/
def number (negative : Bool) : Reading JsonNumber := fun cs => do
  let ds := cs.takeWhile isDigit
  if ds.isEmpty || (ds.length > 1 && ds.head? == some '0') then none
  let (frac, r) ← fraction (cs.dropWhile isDigit)
  let (exp, r) ← exponent r
  if frac.isNone && exp.isNone then return (.whole negative (natural ds), r)
  let (digits, dropped) := keep 0 ds
  let (digits, used) := keepFraction digits 0 (frac.getD [])
  return (.scientific negative digits (exp.getD 0 + dropped - used), r)

/-- Items with commas between them, at most so many, and the closing character. -/
def items {α : Type} (close : Char) (read : Reading α) : Nat → Reading (List α)
  | 0, _ => none
  | n + 1, cs =>
    match read cs with
    | none => none
    | some (x, r) =>
      match skip r with
      | ',' :: r => (items close read n r).map fun (xs, r) => (x :: xs, r)
      | c :: r => if c = close then some ([x], r) else none
      | [] => none

/-- What stands behind an opening character: perhaps items, and the closing character. -/
def enclosed {α : Type} (limit : Nat) (close : Char) (read : Reading α) : Reading (List α) :=
  fun cs =>
    match skip cs with
    | c :: r => if c = close then some ([], r) else items close read limit (c :: r)
    | [] => none

/-- A name, and what is read behind its colon. -/
def member {α : Type} (read : String → Reading α) : Reading (String × α) := fun cs =>
  match skip cs with
  | '"' :: r =>
    match text [] r with
    | none => none
    | some (name, r) =>
      match skip r with
      | ':' :: r => (read name r).map fun (x, r) => ((name, x), r)
      | _ => none
  | _ => none

def passMember (pass : Reading Unit) : Reading Unit := fun cs =>
  match skip cs with
  | '"' :: r =>
    match passText r with
    | none => none
    | some (_, r) =>
      match skip r with
      | ':' :: r => pass r
      | _ => none
  | _ => none

/-- A word or a number. -/
def plain : Reading Json
  | 'n' :: 'u' :: 'l' :: 'l' :: r => some (.null, r)
  | 't' :: 'r' :: 'u' :: 'e' :: r => some (.bool true, r)
  | 'f' :: 'a' :: 'l' :: 's' :: 'e' :: r => some (.bool false, r)
  | '-' :: r => (number true r).map fun (n, r) => (.number n, r)
  | r => (number false r).map fun (n, r) => (.number n, r)

def isBounded : Json → Bool
  | .number n => n.isBounded
  | _ => true

/-- A value with so many arrays and objects around one another at most. -/
def value (limit : Nat) : (depth : Nat) → Reading Json
  | depth, cs =>
    match skip cs, depth with
    | '[' :: r, depth + 1 =>
      (enclosed limit ']' (value limit depth) r).map fun (xs, r) => (.array xs, r)
    | '\x7b' :: r, depth + 1 =>
      (enclosed limit '\x7d' (member fun _ => value limit depth) r).map fun (ms, r) =>
        (.object ms, r)
    | '"' :: r, _ => (text [] r).map fun (s, r) => (.string s, r)
    | r, _ => (plain r).filter (isBounded ·.1)

/-- Passes over a value. -/
def pass (limit : Nat) : (depth : Nat) → Reading Unit
  | 0, _ => none
  | depth + 1, cs =>
    match skip cs with
    | '[' :: r => (enclosed limit ']' (pass limit depth) r).map fun (_, r) => ((), r)
    | '\x7b' :: r =>
      (enclosed limit '\x7d' (passMember (pass limit depth)) r).map fun (_, r) => ((), r)
    | '"' :: r => passText r
    | r => (plain r).map fun (_, r) => ((), r)

end Attestation.Json.Reader
