import Attestation.Request

/-!
Schemes: for each kind of attestation the layout of its requests and the fields of its response
hash. A scheme comes from a definition that passes the checks below.
-/

namespace Attestation

structure RequestField where
  key : String
  width : Nat
  kind : FieldKind
  deriving DecidableEq, Repr

structure ResponseField where
  key : String
  /-- The type as which the value enters the hash. -/
  type : String
  description : String
  deriving DecidableEq, Repr

/-- A scheme as it is written down, before it is checked. -/
structure Definition where
  /-- Of the form `t-`, five digits of the id, and more. -/
  name : String
  id : UInt16
  title : String
  sources : List Source
  /-- The fields behind those that all requests share. -/
  request : List RequestField
  /-- The fields behind those that all responses share. -/
  response : List ResponseField
  deriving DecidableEq, Repr

structure Scheme where
  kind : Kind
  title : String
  sources : List Source
  /-- All fields in the order in which they are encoded. -/
  request : List RequestField
  response : List ResponseField
  deriving DecidableEq, Repr

namespace Scheme

def size (s : Scheme) : Nat :=
  s.request.foldr (·.width + ·) 0

def supports (s : Scheme) (source : Source) : Bool :=
  s.sources.contains source

/-- The fields with which every request begins. -/
def header : List RequestField :=
  [⟨"attestationType", 2, .attestationType⟩,
   ⟨"sourceId", 4, .sourceId⟩,
   ⟨"messageIntegrityCode", 32, .bytes⟩]

/-- The fields with which every response hash begins. -/
def responseHeader : List ResponseField :=
  [⟨"attestationType", "uint16", "Attestation type id"⟩,
   ⟨"sourceId", "uint32", "Source ledger id"⟩,
   ⟨"stateConnectorRound", "uint256",
     "Voting round in which the attestation was validated"⟩]

end Scheme

namespace Definition

/-- The id that the name spells: five ASCII digits behind `t-`, below `2 ^ 16`. -/
def spelled? (name : String) : Option UInt16 :=
  match name.toList with
  | 't' :: '-' :: cs =>
    let ds := cs.take 5
    if ds.length = 5 ∧ ds.all (fun c => '0' ≤ c ∧ c ≤ '9') then
      let n := ds.foldl (fun n c => 10 * n + (c.toNat - 48)) 0
      if n < UInt16.size then some (UInt16.ofNat n) else none
    else none
  | _ => none

/-- What is wrong with a field of requests of the kind, behind the earlier fields. -/
def fieldFlaw? (k : Kind) (earlier : List RequestField) (f : RequestField) : Option Flaw :=
  if f.width < 1 ∨ 32 < f.width then some (.width f.key f.width)
  else if earlier.any (·.key == f.key) then some (.repeatedKey f.key)
  else
    match k.binding? f.key with
    | none => some (.unbound f.key k)
    | some b => if b.kind = f.kind then none else some (.misbound f.key f.kind b.kind)

def layoutFlaw? (k : Kind) (earlier : List RequestField) : List RequestField → Option Flaw
  | [] => none
  | f :: fs => (fieldFlaw? k earlier f).or (layoutFlaw? k (earlier ++ [f]) fs)

/-- The scheme of a definition for the given kind, without any check. -/
def scheme (d : Definition) (k : Kind) : Scheme :=
  ⟨k, d.title, d.sources, Scheme.header ++ d.request, d.response⟩

/-- The scheme of a definition, or its first flaw. -/
def check (d : Definition) : Except Flaw Scheme := do
  match spelled? d.name with
  | none => throw .unnumbered
  | some encoded => if encoded ≠ d.id then throw (.misnumbered d.id encoded)
  let some k := Kind.ofId? d.id | throw (.unknownKind d.id)
  if d.sources.isEmpty then throw .noSources
  let s := d.scheme k
  match layoutFlaw? k [] s.request with
  | some flaw => throw flaw
  | none => return s

def payment : Definition where
  name := "t-00001-payment"
  id := 1
  title := "Payment"
  sources := Source.all
  request :=
    [⟨"id", 32, .bytes⟩, ⟨"blockNumber", 4, .number⟩, ⟨"inUtxo", 1, .number⟩, ⟨"utxo", 1, .number⟩]
  response :=
    [⟨"blockNumber", "uint64", "Number of the block containing the transaction"⟩,
     ⟨"blockTimestamp", "uint64", "Timestamp of the block"⟩,
     ⟨"transactionHash", "bytes32", "Hash of the transaction"⟩,
     ⟨"inUtxo", "uint8", "Index of the source input"⟩,
     ⟨"utxo", "uint8", "Index of the receiving output"⟩,
     ⟨"sourceAddressHash", "bytes32", "Hash of the source address"⟩,
     ⟨"receivingAddressHash", "bytes32", "Hash of the receiving address"⟩,
     ⟨"spentAmount", "int256", "Amount that left the source address"⟩,
     ⟨"receivedAmount", "int256", "Amount that reached the receiving address"⟩,
     ⟨"paymentReference", "bytes32", "Payment reference, zero if absent"⟩,
     ⟨"oneToOne", "bool", "Single source and single receiver"⟩,
     ⟨"status", "uint8", "Transaction success status"⟩]

def balanceDecreasing : Definition where
  name := "t-00002-balance-decreasing-transaction"
  id := 2
  title := "BalanceDecreasingTransaction"
  sources := Source.all
  request := [⟨"id", 32, .bytes⟩, ⟨"blockNumber", 4, .number⟩, ⟨"inUtxo", 1, .number⟩]
  response :=
    [⟨"blockNumber", "uint64", "Number of the block containing the transaction"⟩,
     ⟨"blockTimestamp", "uint64", "Timestamp of the block"⟩,
     ⟨"transactionHash", "bytes32", "Hash of the transaction"⟩,
     ⟨"inUtxo", "uint8", "Index of the source input"⟩,
     ⟨"sourceAddressHash", "bytes32", "Hash of the source address"⟩,
     ⟨"spentAmount", "int256", "Amount that left the source address"⟩,
     ⟨"paymentReference", "bytes32", "Payment reference, zero if absent"⟩]

def blockHeight : Definition where
  name := "t-00003-confirmed-block-height-exists"
  id := 3
  title := "ConfirmedBlockHeightExists"
  sources := Source.all
  request := [⟨"blockNumber", 4, .number⟩, ⟨"queryWindow", 4, .number⟩]
  response :=
    [⟨"blockNumber", "uint64", "Number of the confirmed block"⟩,
     ⟨"blockTimestamp", "uint64", "Timestamp of the confirmed block"⟩,
     ⟨"numberOfConfirmations", "uint8", "Confirmation depth of the ledger"⟩,
     ⟨"averageBlockProductionTimeMs", "uint64", "Average block time in the window"⟩,
     ⟨"lowestQueryWindowBlockNumber", "uint64", "First block inside the window"⟩,
     ⟨"lowestQueryWindowBlockTimestamp", "uint64", "Timestamp of that block"⟩]

def nonexistence : Definition where
  name := "t-00004-referenced-payment-nonexistence"
  id := 4
  title := "ReferencedPaymentNonexistence"
  sources := Source.all
  request :=
    [⟨"minimalBlockNumber", 4, .number⟩, ⟨"deadlineBlockNumber", 4, .number⟩,
     ⟨"deadlineTimestamp", 4, .number⟩, ⟨"destinationAddressHash", 32, .bytes⟩,
     ⟨"amount", 16, .number⟩, ⟨"paymentReference", 32, .bytes⟩]
  response :=
    [⟨"deadlineBlockNumber", "uint64", "Last block of the search window"⟩,
     ⟨"deadlineTimestamp", "uint64", "Last timestamp of the search window"⟩,
     ⟨"destinationAddressHash", "bytes32", "Hash of the destination address"⟩,
     ⟨"paymentReference", "bytes32", "Reference the payment had to carry"⟩,
     ⟨"amount", "uint128", "Minimal amount the payment had to carry"⟩,
     ⟨"lowerBoundaryBlockNumber", "uint64", "First block of the search window"⟩,
     ⟨"lowerBoundaryBlockTimestamp", "uint64", "Timestamp of that block"⟩,
     ⟨"firstOverflowBlockNumber", "uint64", "First block past the deadline"⟩,
     ⟨"firstOverflowBlockTimestamp", "uint64", "Timestamp of that block"⟩]

def of : Kind → Definition
  | .payment => payment
  | .balanceDecreasingTransaction => balanceDecreasing
  | .confirmedBlockHeightExists => blockHeight
  | .referencedPaymentNonexistence => nonexistence

def standard : List Definition :=
  Kind.all.map of

end Definition

/-- The built-in scheme of a kind. -/
def Kind.scheme (k : Kind) : Scheme :=
  (Definition.of k).scheme k

theorem Definition.check_of (k : Kind) : (Definition.of k).check = .ok k.scheme := by
  cases k <;> rfl

/-- Checked schemes in ascending order of their ids. -/
structure Registry where
  schemes : List Scheme
  deriving DecidableEq, Repr

namespace Registry

def empty : Registry := ⟨[]⟩

/-- The scheme with the given id, or `unsupportedKind`. -/
def scheme (r : Registry) (id : UInt16) : Except Error Scheme :=
  match r.schemes.find? (·.kind.id == id) with
  | some s => .ok s
  | none => .error (.unsupportedKind id)

def size (r : Registry) : Nat :=
  r.schemes.length

def place (s : Scheme) : List Scheme → List Scheme
  | [] => [s]
  | t :: ts => if s.kind.id < t.kind.id then s :: t :: ts else t :: place s ts

/-- One more definition: refused if it is flawed by itself or repeats an id. -/
def add (r : Registry) (d : Definition) : Except Error Registry :=
  match d.check with
  | .error flaw => .error (.invalidScheme d.name flaw)
  | .ok s =>
    if r.schemes.any (·.kind.id == d.id) then .error (.invalidScheme d.name (.repeatedId d.id))
    else .ok ⟨place s r.schemes⟩

def load (ds : List Definition) : Except Error Registry :=
  ds.foldlM add empty

def standard : Registry :=
  ⟨Kind.all.map Kind.scheme⟩

theorem load_standard : load Definition.standard = .ok standard := by
  rfl

theorem scheme_standard (k : Kind) : standard.scheme k.id = .ok k.scheme := by
  cases k <;> rfl

end Registry

end Attestation
