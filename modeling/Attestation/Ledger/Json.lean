import Attestation.Json.Format
import Attestation.Ledger

/-!
Blocks and transactions as JSON.
-/

namespace Attestation

namespace BlockId

def names : List String :=
  ["number", "hash"]

def ofJson? (j : Json) : Option BlockId := do
  let [number, hash] ← j.fields? names names.length | none
  return {
    number := ← Json.need Json.uint64? number
    hash := ← Json.need Json.hash? hash }

def toJson (b : BlockId) : Json :=
  .object [("number", .nat b.number.toNat), ("hash", .hash b.hash)]

def shape : Json.Shape :=
  .record [("number", .value), ("hash", .hash)] false

def format : Json.Format BlockId := ⟨shape, ofJson?, toJson⟩

end BlockId

namespace Block

def names : List String :=
  ["number", "hash", "timestamp", "transactions"]

def ofJson? (j : Json) : Option Block := do
  let [number, hash, timestamp, transactions] ← j.fields? names names.length | none
  return {
    number := ← Json.need Json.uint64? number
    hash := ← Json.need Json.hash? hash
    timestamp := ← Json.need Json.uint64? timestamp
    transactions := ← Json.need (Json.list? Json.hash?) transactions }

def toJson (b : Block) : Json :=
  .object
    [("number", .nat b.number.toNat), ("hash", .hash b.hash),
     ("timestamp", .nat b.timestamp.toNat), ("transactions", .array (b.transactions.map .hash))]

def shape : Json.Shape :=
  .record
    [("number", .value), ("hash", .hash), ("timestamp", .value), ("transactions", .list .hash)]
    false

def format : Json.Format Block := ⟨shape, ofJson?, toJson⟩

end Block

namespace Entry

def names : List String :=
  ["address", "value"]

def ofJson? (j : Json) : Option Entry := do
  let [address, value] ← j.fields? names names.length | none
  return {
    address := ← Json.orElse (Json.option? Json.string?) none address
    value := BitVec.ofNat 128 (← Json.need (Json.nat? (1 <<< 128)) value) }

def toJson (e : Entry) : Json :=
  .object [("address", Json.option .string e.address), ("value", .nat e.value.toNat)]

def format : Json.Format Entry := ⟨.plain names, ofJson?, toJson⟩

end Entry

namespace TransactionStatus

def ofJson? (j : Json) : Option TransactionStatus :=
  j.case? ofName?

def toJson (s : TransactionStatus) : Json :=
  .string s.name

def format : Json.Format TransactionStatus := ⟨.value, ofJson?, toJson⟩

end TransactionStatus

namespace Transaction

def names : List String :=
  ["hash", "inputs", "outputs", "reference", "status"]

def ofJson? (j : Json) : Option Transaction := do
  let [hash, inputs, outputs, reference, status] ← j.fields? names names.length | none
  return {
    hash := ← Json.need Json.hash? hash
    inputs := ← Json.need (Json.list? Entry.ofJson?) inputs
    outputs := ← Json.need (Json.list? Entry.ofJson?) outputs
    reference := ← Json.orElse (Json.option? Json.hash?) none reference
    status := ← Json.need TransactionStatus.ofJson? status }

def toJson (t : Transaction) : Json :=
  .object
    [("hash", .hash t.hash), ("inputs", .array (t.inputs.map Entry.toJson)),
     ("outputs", .array (t.outputs.map Entry.toJson)),
     ("reference", Json.option .hash t.reference), ("status", t.status.toJson)]

def shape : Json.Shape :=
  .record
    [("hash", .hash), ("inputs", .list Entry.format.shape), ("outputs", .list Entry.format.shape),
     ("reference", .option .hash), ("status", .value)]
    false

def format : Json.Format Transaction := ⟨shape, ofJson?, toJson⟩

end Transaction

end Attestation
