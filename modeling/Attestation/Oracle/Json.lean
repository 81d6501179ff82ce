import Attestation.Oracle
import Attestation.Response.Json

/-!
Handles and replies of the oracle network as JSON.
-/

namespace Attestation

namespace RequestId

def names : List String :=
  ["round", "data"]

def ofJson? (j : Json) : Option RequestId := do
  let [round, data] ← j.fields? names names.length | none
  return {
    round := ← Json.need Json.uint64? round
    data := ← Json.need Json.bytes? data }

def toJson (id : RequestId) : Json :=
  .object [("round", .nat id.round.toNat), ("data", .bytes id.data)]

def format : Json.Format RequestId := ⟨.plain names, ofJson?, toJson⟩

end RequestId

namespace ProofReply

def names : List String :=
  ["finalized", "result"]

/-- By position both are needed, in an object the result may be missing. -/
def ofJson? (j : Json) : Option ProofReply := do
  let [finalized, result] ← j.fields? names names.length | none
  return {
    finalized := ← Json.need Json.bool? finalized
    result := ← Json.orElse (Json.option? Response.ofJson?) none result }

def toJson (r : ProofReply) : Json :=
  .object [("finalized", .bool r.finalized), ("result", Json.option Response.toJson r.result)]

def shape : Json.Shape :=
  .record [("finalized", .value), ("result", .option Response.shape)] false

def format : Json.Format ProofReply := ⟨shape, ofJson?, toJson⟩

end ProofReply

end Attestation
