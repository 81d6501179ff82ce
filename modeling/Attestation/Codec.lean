import Attestation.Scheme

/-!
The binary form of requests: the fields of the scheme in order, each big-endian and padded with
zeros on the left to its width, without delimiters. The scheme of the kind in front tells how to
read the rest. Requests are equal when they mean the same binary form.
-/

namespace Attestation.Codec

def writeNumber (f : RequestField) (n : Word) : Except Error Bytes :=
  let needed := Bytes.needed n.toNat
  if f.width < needed then .error (.fieldTooLong f.key f.width needed)
  else .ok (Bytes.ofNat f.width n.toNat)

def writeBytes (f : RequestField) (b : Bytes) : Except Error Bytes :=
  if f.width < b.length then .error (.fieldTooLong f.key f.width b.length)
  else .ok (Bytes.padLeft f.width b)

def encodeField (s : Scheme) (f : RequestField) (v : FieldValue) : Except Error Bytes :=
  match f.kind, v with
  | .attestationType, .kind k => writeNumber f (BitVec.ofNat 256 k.id.toNat)
  | .sourceId, .source source => writeNumber f (BitVec.ofNat 256 source.id.toNat)
  | .number, .number n => do writeNumber f (← n.resolve f.key)
  | .bytes, .bytes b => writeBytes f b
  | _, _ => .error (.invalidScheme s.title (.mistyped f.key f.kind))

def encodeFields (s : Scheme) (r : Request) : List RequestField → Except Error Bytes
  | [] => .ok []
  | f :: fs => do
    let some v := (s.kind.binding? f.key).bind (·.get r) | throw (.missingField f.key)
    let b ← encodeField s f v
    let rest ← encodeFields s r fs
    return b ++ rest

def requireSource (s : Scheme) (source : Source) : Except Error Unit :=
  if s.supports source then .ok () else .error (.unsupportedSource s.kind.id source.id)

/-- The binary form of a request under a scheme of its kind. -/
def encodeBy (s : Scheme) (r : Request) : Except Error Bytes := do
  requireSource s r.source
  encodeFields s r s.request

def encode (r : Request) : Except Error Bytes :=
  encodeBy r.kind.scheme r

def decodeField (s : Scheme) (f : RequestField) (b : Bytes) : Except Error FieldValue :=
  let n := Bytes.toNat b
  match f.kind with
  | .attestationType =>
    if n < UInt16.size then
      match Kind.ofId? (UInt16.ofNat n) with
      | some k => .ok (.kind k)
      | none => .error (.unsupportedKind (UInt16.ofNat n))
    else .error (.unsupportedKind 0xFFFF)
  | .sourceId =>
    if n < UInt32.size then
      match Source.ofId? (UInt32.ofNat n) with
      | some source => .ok (.source source)
      | none => .error (.unsupportedSource s.kind.id (UInt32.ofNat n))
    else .error (.unsupportedSource s.kind.id 0xFFFFFFFF)
  | .number => .ok (.number (.ofNat n))
  | .bytes => .ok (.bytes b)

/-- Writes the fields of a request one after the other. -/
def decodeFields (s : Scheme) : List RequestField → Bytes → Request → Except Error Request
  | [], _, r => .ok r
  | f :: fs, b, r => do
    let v ← decodeField s f (b.take f.width)
    let some r' := (s.kind.binding? f.key).bind (·.set r v)
      | throw (.invalidScheme s.title (.undecodable f.key s.kind))
    decodeFields s fs (b.drop f.width) r'

/-- A request from bytes of exactly the length that the scheme sets. -/
def decodeBy (s : Scheme) (b : Bytes) : Except Error Request := do
  if b.length ≠ s.size then throw (.malformedRequest s.size b.length)
  let r ← decodeFields s s.request b (.blank s.kind)
  requireSource s r.source
  return r

def kindWidth : Nat := 2

def decode (b : Bytes) : Except Error Request := do
  if b.length < kindWidth then throw (.malformedRequest kindWidth b.length)
  let s ← Registry.standard.scheme (UInt16.ofNat (Bytes.toNat (b.take kindWidth)))
  decodeBy s b

/-- Byte strings are the same in a field when they are equal behind their padding. A string that
does not fit the field is the same only as itself. -/
def sameBytes (width : Nat) (x y : Bytes) : Bool :=
  if width < x.length ∨ width < y.length then x == y
  else Bytes.padLeft width x == Bytes.padLeft width y

def sameValue (width : Nat) : FieldValue → FieldValue → Bool
  | .kind j, .kind k => j == k
  | .source s, .source t => s == t
  | .number m, .number n => m.same n
  | .bytes x, .bytes y => sameBytes width x y
  | _, _ => false

/-- Requests of one kind whose fields are the same one by one: numbers by their values, byte strings
behind their padding. -/
def same (a b : Request) : Bool :=
  a.kind == b.kind && a.kind.scheme.request.all fun f =>
    match (a.kind.binding? f.key).map fun g => (g.get a, g.get b) with
    | some (some x, some y) => sameValue f.width x y
    | _ => false

end Attestation.Codec
