import Attestation.Decimal.Binary

/-!
Values of settings before they have a type: what a settings file or an environment variable says.
-/

namespace Attestation.Settings

inductive Value
  | bool (value : Bool)
  | integer (value : Int)
  | float (value : Float)
  | text (value : String)
  | list (items : List Value)
  | table (entries : List (String × Value))
  deriving Inhabited

abbrev Layer := List (String × Value)

namespace Layer

def find? (layer : Layer) (key : String) : Option Value :=
  (layer.reverse.find? (·.1 == key)).map (·.2)

end Layer

namespace Value

def uint64? : Value → Option UInt64
  | integer i => if 0 ≤ i ∧ i < UInt64.size then some (UInt64.ofNat i.toNat) else none
  | _ => none

def float? : Value → Option Float
  | float x => some x
  | integer i =>
    some (Decimal.Binary.ofDecimal (i < 0) i.natAbs 0)
  | _ => none

def text? : Value → Option String
  | text s => some s
  | _ => none

end Value

end Attestation.Settings
