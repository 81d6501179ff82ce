import Attestation.Hash

/-!
JSON values with the members of objects in their order, repeated names included. Integers keep all
digits and the sign of zero. Records are taken from objects by name, or from arrays by position;
other members of an object are ignored.
-/

namespace Attestation

/-- A number is an integer, or digits times a power of ten. -/
inductive JsonNumber
  | whole (negative : Bool) (magnitude : Nat)
  | scientific (negative : Bool) (digits : Nat) (exponent : Int)
  deriving DecidableEq, Repr

inductive Json
  | null
  | bool (value : Bool)
  | number (value : JsonNumber)
  | string (value : String)
  | array (items : List Json)
  | object (members : List (String × Json))
  deriving Inhabited, Repr

namespace Json

def nat (n : Nat) : Json :=
  number (.whole false n)

def hash (h : Hash) : Json :=
  string h.toText

def bytes (b : Bytes) : Json :=
  string (Hex.encode b)

def option {α : Type} (f : α → Json) : Option α → Json
  | none => null
  | some x => f x

/-- An integer from 0 up to below the bound. -/
def nat? (bound : Nat) : Json → Option Nat
  | number (.whole false n) => if n < bound then some n else none
  | _ => none

def bool? : Json → Option Bool
  | bool b => some b
  | _ => none

def string? : Json → Option String
  | string s => some s
  | _ => none

def array? : Json → Option (List Json)
  | array xs => some xs
  | _ => none

def uint8? (j : Json) : Option UInt8 :=
  (j.nat? UInt8.size).map UInt8.ofNat

/-- A hash: text, or an array of its bytes. Behind them there may be one item more, if it is no
byte. -/
def hash? : Json → Option Hash
  | string s => Hash.ofText? s
  | array xs => do
    let hash ← ((xs.take 32).mapM uint8?).bind Hash.ofBytes?
    let rest := xs.drop 32
    guard (rest.length ≤ 1 && rest.all (·.uint8?.isNone))
    return hash
  | _ => none

def uint16? (j : Json) : Option UInt16 :=
  (j.nat? UInt16.size).map UInt16.ofNat

def uint32? (j : Json) : Option UInt32 :=
  (j.nat? UInt32.size).map UInt32.ofNat

def uint64? (j : Json) : Option UInt64 :=
  (j.nat? UInt64.size).map UInt64.ofNat

/-- Null stands for no value. -/
def option? {α : Type} (f : Json → Option α) : Json → Option (Option α)
  | null => some none
  | j => (f j).map some

def list? {α : Type} (f : Json → Option α) : Json → Option (List α)
  | array xs => xs.mapM f
  | _ => none

/-- A byte string: hexadecimal text, or a list of numbers below 256. -/
def bytes? : Json → Option Bytes
  | string s => Hex.decode? s
  | array xs => xs.mapM uint8?
  | _ => none

/-- One of the named cases: its name, or an object whose one member has that name and is null. -/
def case? {α : Type} (f : String → Option α) : Json → Option α
  | string s => f s
  | object [(s, null)] => f s
  | _ => none

/-- The values of the members with a name, in order. -/
def valuesOf (name : String) (members : List (String × Json)) : List Json :=
  (members.filter (·.1 == name)).map (·.2)

/-- A member that may be missing, but not be repeated. -/
def memberOf? (members : List (String × Json)) (name : String) : Option (Option Json) :=
  match valuesOf name members with
  | [] => some none
  | [j] => some (some j)
  | _ => none

/-- The members of an object, the last one of each name. -/
def members? : Json → Option (List (String × Json))
  | object members =>
    some (members.foldl (fun kept m => kept.filter (·.1 != m.1) ++ [m]) [])
  | _ => none

/-- The object with other values for some names. -/
def overwrite (changes : List (String × Json)) : Json → Json
  | object members => object ((members.filter fun m => !changes.any (·.1 == m.1)) ++ changes)
  | j => j

/-- The fields of a record: members of an object, or the items of an array that has at least
`required` and at most all of them. -/
def fields? (names : List String) (required : Nat) : Json → Option (List (Option Json))
  | object members => names.mapM (memberOf? members)
  | array items =>
    if required ≤ items.length ∧ items.length ≤ names.length then
      some (items.map some ++ List.replicate (names.length - items.length) none)
    else none
  | _ => none

/-- A field that must be there. -/
def need {α : Type} (f : Json → Option α) (field : Option Json) : Option α :=
  field.bind f

/-- A field with a value that stands in where it is missing. -/
def orElse {α : Type} (f : Json → Option α) (default : α) : Option Json → Option α
  | none => some default
  | some j => f j

end Json

end Attestation
