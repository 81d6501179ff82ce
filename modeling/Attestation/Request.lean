import Attestation.Numeral

/-!
Attestation requests: a source, a code for the integrity of the anticipated response, and the
fields of one of the four kinds. `Binding` reaches a field by its key.
-/

namespace Attestation

structure PaymentRequest where
  id : Bytes
  blockNumber : Numeral
  inUtxo : Numeral
  utxo : Numeral
  deriving BEq, DecidableEq, Inhabited, Repr

structure BalanceDecreasingRequest where
  id : Bytes
  blockNumber : Numeral
  inUtxo : Numeral
  deriving BEq, DecidableEq, Inhabited, Repr

structure BlockHeightRequest where
  blockNumber : Numeral
  queryWindow : Numeral
  deriving BEq, DecidableEq, Inhabited, Repr

structure NonexistenceRequest where
  minimalBlockNumber : Numeral
  deadlineBlockNumber : Numeral
  deadlineTimestamp : Numeral
  destinationAddressHash : Bytes
  amount : Numeral
  paymentReference : Bytes
  deriving BEq, DecidableEq, Inhabited, Repr

inductive RequestBody
  | payment (fields : PaymentRequest)
  | balanceDecreasing (fields : BalanceDecreasingRequest)
  | blockHeight (fields : BlockHeightRequest)
  | nonexistence (fields : NonexistenceRequest)
  deriving BEq, DecidableEq, Repr

namespace RequestBody

def kind : RequestBody → Kind
  | payment _ => .payment
  | balanceDecreasing _ => .balanceDecreasingTransaction
  | blockHeight _ => .confirmedBlockHeightExists
  | nonexistence _ => .referencedPaymentNonexistence

/-- All numbers zero, all byte strings empty. -/
def blank : Kind → RequestBody
  | .payment => payment default
  | .balanceDecreasingTransaction => balanceDecreasing default
  | .confirmedBlockHeightExists => blockHeight default
  | .referencedPaymentNonexistence => nonexistence default

@[simp] theorem kind_blank (k : Kind) : (blank k).kind = k := by
  cases k <;> rfl

end RequestBody

structure Request where
  source : Source
  /-- Salted hash of the anticipated response, zero where none is anticipated. -/
  integrityCode : Hash
  body : RequestBody
  deriving BEq, DecidableEq, Repr

namespace Request

def kind (r : Request) : Kind :=
  r.body.kind

def of (source : Source) (body : RequestBody) : Request :=
  ⟨source, Hash.zero, body⟩

def withIntegrityCode (r : Request) (code : Hash) : Request :=
  { r with integrityCode := code }

def blank (k : Kind) : Request :=
  of .btc (.blank k)

/-- A request for a payment by the transaction with a hash. -/
def payment (source : Source) (hash : Hash) (block inUtxo utxo : Nat) : Request :=
  of source (.payment {
    id := Word.toBytes hash
    blockNumber := .ofNat block
    inUtxo := .ofNat inUtxo
    utxo := .ofNat utxo })

def balanceDecreasing (source : Source) (hash : Hash) (block inUtxo : Nat) : Request :=
  of source (.balanceDecreasing {
    id := Word.toBytes hash
    blockNumber := .ofNat block
    inUtxo := .ofNat inUtxo })

def blockHeight (source : Source) (block window : Nat) : Request :=
  of source (.blockHeight { blockNumber := .ofNat block, queryWindow := .ofNat window })

def nonexistence (source : Source) (destination reference : Hash)
    (amount first last timestamp : Nat) : Request :=
  of source (.nonexistence {
    minimalBlockNumber := .ofNat first
    deadlineBlockNumber := .ofNat last
    deadlineTimestamp := .ofNat timestamp
    destinationAddressHash := Word.toBytes destination
    amount := .ofNat amount
    paymentReference := Word.toBytes reference })

@[simp] theorem kind_blank (k : Kind) : (blank k).kind = k :=
  RequestBody.kind_blank k

end Request

inductive FieldValue
  | kind (k : Kind)
  | source (s : Source)
  | number (n : Numeral)
  | bytes (b : Bytes)
  deriving DecidableEq, Repr

/-- Access to one request field. `get` has nothing for a request of another kind, and `set` accepts
no value of another kind. -/
structure Binding where
  key : String
  kind : FieldKind
  get : Request → Option FieldValue
  set : Request → FieldValue → Option Request

namespace Binding

def number (key : String) (read : RequestBody → Option Numeral)
    (write : RequestBody → Numeral → Option RequestBody) : Binding where
  key := key
  kind := .number
  get r := (read r.body).map .number
  set
    | r, .number n => (write r.body n).map fun body => { r with body }
    | _, _ => none

def bytes (key : String) (read : RequestBody → Option Bytes)
    (write : RequestBody → Bytes → Option RequestBody) : Binding where
  key := key
  kind := .bytes
  get r := (read r.body).map .bytes
  set
    | r, .bytes b => (write r.body b).map fun body => { r with body }
    | _, _ => none

/-- The kind is that of the body: setting it only checks it. -/
def attestationType : Binding where
  key := "attestationType"
  kind := .attestationType
  get r := some (.kind r.kind)
  set
    | r, .kind k => if k = r.kind then some r else none
    | _, _ => none

def sourceId : Binding where
  key := "sourceId"
  kind := .sourceId
  get r := some (.source r.source)
  set
    | r, .source source => some { r with source }
    | _, _ => none

/-- The integrity code is set from exactly 32 bytes. -/
def messageIntegrityCode : Binding where
  key := "messageIntegrityCode"
  kind := .bytes
  get r := some (.bytes (Word.toBytes r.integrityCode))
  set
    | r, .bytes b => (Hash.ofBytes? b).map r.withIntegrityCode
    | _, _ => none

def header : List Binding :=
  [attestationType, sourceId, messageIntegrityCode]

def payment : List Binding :=
  [bytes "id"
      (fun | .payment f => some f.id | _ => none)
      (fun | .payment f, id => some (.payment { f with id }) | _, _ => none),
    number "blockNumber"
      (fun | .payment f => some f.blockNumber | _ => none)
      (fun | .payment f, blockNumber => some (.payment { f with blockNumber }) | _, _ => none),
    number "inUtxo"
      (fun | .payment f => some f.inUtxo | _ => none)
      (fun | .payment f, inUtxo => some (.payment { f with inUtxo }) | _, _ => none),
    number "utxo"
      (fun | .payment f => some f.utxo | _ => none)
      (fun | .payment f, utxo => some (.payment { f with utxo }) | _, _ => none)]

def balanceDecreasing : List Binding :=
  [bytes "id"
      (fun | .balanceDecreasing f => some f.id | _ => none)
      (fun | .balanceDecreasing f, id => some (.balanceDecreasing { f with id }) | _, _ => none),
    number "blockNumber"
      (fun | .balanceDecreasing f => some f.blockNumber | _ => none)
      (fun
        | .balanceDecreasing f, blockNumber => some (.balanceDecreasing { f with blockNumber })
        | _, _ => none),
    number "inUtxo"
      (fun | .balanceDecreasing f => some f.inUtxo | _ => none)
      (fun
        | .balanceDecreasing f, inUtxo => some (.balanceDecreasing { f with inUtxo })
        | _, _ => none)]

def blockHeight : List Binding :=
  [number "blockNumber"
      (fun | .blockHeight f => some f.blockNumber | _ => none)
      (fun
        | .blockHeight f, blockNumber => some (.blockHeight { f with blockNumber })
        | _, _ => none),
    number "queryWindow"
      (fun | .blockHeight f => some f.queryWindow | _ => none)
      (fun
        | .blockHeight f, queryWindow => some (.blockHeight { f with queryWindow })
        | _, _ => none)]

def nonexistence : List Binding :=
  [number "minimalBlockNumber"
      (fun | .nonexistence f => some f.minimalBlockNumber | _ => none)
      (fun
        | .nonexistence f, minimalBlockNumber => some (.nonexistence { f with minimalBlockNumber })
        | _, _ => none),
    number "deadlineBlockNumber"
      (fun | .nonexistence f => some f.deadlineBlockNumber | _ => none)
      (fun
        | .nonexistence f, deadlineBlockNumber =>
          some (.nonexistence { f with deadlineBlockNumber })
        | _, _ => none),
    number "deadlineTimestamp"
      (fun | .nonexistence f => some f.deadlineTimestamp | _ => none)
      (fun
        | .nonexistence f, deadlineTimestamp => some (.nonexistence { f with deadlineTimestamp })
        | _, _ => none),
    bytes "destinationAddressHash"
      (fun | .nonexistence f => some f.destinationAddressHash | _ => none)
      (fun
        | .nonexistence f, destinationAddressHash =>
          some (.nonexistence { f with destinationAddressHash })
        | _, _ => none),
    number "amount"
      (fun | .nonexistence f => some f.amount | _ => none)
      (fun | .nonexistence f, amount => some (.nonexistence { f with amount }) | _, _ => none),
    bytes "paymentReference"
      (fun | .nonexistence f => some f.paymentReference | _ => none)
      (fun
        | .nonexistence f, paymentReference => some (.nonexistence { f with paymentReference })
        | _, _ => none)]

def body : Kind → List Binding
  | .payment => payment
  | .balanceDecreasingTransaction => balanceDecreasing
  | .confirmedBlockHeightExists => blockHeight
  | .referencedPaymentNonexistence => nonexistence

end Binding

def Kind.binding? (k : Kind) (key : String) : Option Binding :=
  (Binding.header ++ Binding.body k).find? (·.key == key)

end Attestation
