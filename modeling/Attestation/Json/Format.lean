import Attestation.Json.Printer
import Attestation.Json.Reader.Byte

/-!
What a text is read for. Of the members of a record only those are values that have the name of a
field: the others are passed over, unless the record keeps them. Nothing may follow a value, and at
most 127 arrays and objects may be around one another.
-/

namespace Attestation.Json

inductive Shape
  /-- Any value. -/
  | value
  | hash
  /-- Null, or something of a shape. -/
  | option (shape : Shape)
  | list (item : Shape)
  /-- An object, or the fields in their order in an array. -/
  | record (fields : List (String × Shape)) (keepsOthers : Bool)

namespace Shape

/-- A record with any values in its fields. -/
def plain (names : List String) : Shape :=
  record (names.map (·, value)) false

end Shape

namespace Reader

/-- Bytes with commas between them. -/
def bytes : Nat → Reading (List Json)
  | 0, cs => some ([], cs)
  | n + 1, cs =>
    match plain (skip cs) with
    | none => none
    | some (x, r) =>
      if x.uint8?.isNone then none
      else
        match n, skip r with
        | 0, r => some ([x], r)
        | _ + 1, ',' :: r => (bytes n r).map fun (xs, r) => (x :: xs, r)
        | _ + 1, _ => none

/-- The end of an array of bytes, which comes at once or where one more item stops being read as a
byte. Nothing stands behind a comma where the array closes there. -/
def closeBytes (cs : List Char) : Option (List Char) :=
  let stopped := match skip cs with
    | ',' :: r =>
      match skip r with
      | ']' :: r => some (']' :: r)
      | r => Byte.stop r
    | r => some r
  match stopped.map skip with
  | some (']' :: r) => some r
  | _ => none

def hash (depth : Nat) : Reading Json := fun cs =>
  match skip cs with
  | '"' :: r => (text [] r).map fun (s, r) => (.string s, r)
  | '[' :: r =>
    if depth = 0 then none
    else do
      let (xs, r) ← bytes 32 r
      let r ← closeBytes r
      return (.array xs, r)
  | _ => none

/-- Items in order with commas between them, and the closing bracket. -/
def inOrder {α : Type} : List (Reading α) → Reading (List α)
  | [], _ => none
  | read :: reads, cs =>
    match read cs with
    | none => none
    | some (x, r) =>
      match skip r with
      | ',' :: r => (inOrder reads r).map fun (xs, r) => (x :: xs, r)
      | ']' :: r => some ([x], r)
      | _ => none

/-- The items behind an opening bracket, which may be none. -/
def byPosition {α : Type} (reads : List (Reading α)) : Reading (List α) := fun cs =>
  match skip cs with
  | ']' :: r => some ([], r)
  | r => inOrder reads r

/-- The values of fields behind an opening brace. -/
def byName (limit depth : Nat) (keepsOthers : Bool) (reads : List (String × Reading Json)) :
    Reading (List (String × Json)) := fun cs =>
  let read (name : String) : Reading (Option Json) := fun cs =>
    match reads.lookup name with
    | some read => (read cs).map fun (x, r) => (some x, r)
    | none =>
      if keepsOthers then (value limit depth cs).map fun (x, r) => (some x, r)
      else (pass limit limit cs).map fun (_, r) => (none, r)
  (enclosed limit '\x7d' (member read) cs).map fun (ms, r) =>
    (ms.filterMap fun m => m.2.map (m.1, ·), r)

end Reader

open Reader in
mutual

def Shape.read (limit : Nat) : Shape → (depth : Nat) → Reading Json
  | .value, depth => Reader.value limit depth
  | .hash, depth => Reader.hash depth
  | .option shape, depth => fun cs =>
    match skip cs with
    | 'n' :: 'u' :: 'l' :: 'l' :: r => some (.null, r)
    | r => Shape.read limit shape depth r
  | .list item, depth => fun cs =>
    match skip cs with
    | '[' :: r =>
      if depth = 0 then none
      else (enclosed limit ']' (Shape.read limit item (depth - 1)) r).map fun (xs, r) =>
        (.array xs, r)
    | _ => none
  | .record fields keepsOthers, depth => fun cs =>
    if depth = 0 then none
    else
      let reads := Shape.readFields limit fields (depth - 1)
      match skip cs with
      | '[' :: r => (byPosition (reads.map (·.2)) r).map fun (xs, r) => (.array xs, r)
      | '\x7b' :: r =>
        (byName limit (depth - 1) keepsOthers reads r).map fun (ms, r) => (.object ms, r)
      | _ => none

def Shape.readFields (limit : Nat) :
    List (String × Shape) → (depth : Nat) → List (String × Reading Json)
  | [], _ => []
  | (name, shape) :: fields, depth =>
    (name, Shape.read limit shape depth) :: Shape.readFields limit fields depth

end

/-- The value of a text. No part of it has more items than the text has characters. -/
def read? (shape : Shape) (s : String) : Option Json :=
  let cs := s.toList
  match shape.read cs.length 127 cs with
  | some (j, r) => if (Reader.skip r).isEmpty then some j else none
  | none => none

/-- How the values of a type are written. -/
structure Format (α : Type) where
  shape : Shape
  ofJson? : Json → Option α
  toJson : α → Json

namespace Format

def read? {α : Type} (f : Format α) (s : String) : Option α :=
  (Json.read? f.shape s).bind f.ofJson?

def write {α : Type} (f : Format α) (a : α) : String :=
  (f.toJson a).compact

end Format

end Attestation.Json
