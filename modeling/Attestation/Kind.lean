/-!
The four kinds of attestation, the five source ledgers, and the kinds of value that a request field
holds. Kinds and sources are written as numbers.
-/

namespace Attestation

inductive Kind
  | payment
  | balanceDecreasingTransaction
  | confirmedBlockHeightExists
  | referencedPaymentNonexistence
  deriving DecidableEq, Repr, Inhabited

namespace Kind

def all : List Kind :=
  [payment, balanceDecreasingTransaction, confirmedBlockHeightExists, referencedPaymentNonexistence]

def id : Kind → UInt16
  | payment => 1
  | balanceDecreasingTransaction => 2
  | confirmedBlockHeightExists => 3
  | referencedPaymentNonexistence => 4

def name : Kind → String
  | payment => "Payment"
  | balanceDecreasingTransaction => "BalanceDecreasingTransaction"
  | confirmedBlockHeightExists => "ConfirmedBlockHeightExists"
  | referencedPaymentNonexistence => "ReferencedPaymentNonexistence"

def ofId? (n : UInt16) : Option Kind :=
  all.find? (·.id == n)

def ofName? (s : String) : Option Kind :=
  all.find? (·.name == s)

theorem mem_all (k : Kind) : k ∈ all := by
  cases k <;> decide

theorem ofId?_id (k : Kind) : ofId? k.id = some k := by
  cases k <;> rfl

theorem ofId?_eq_some_iff {n : UInt16} {k : Kind} : ofId? n = some k ↔ k.id = n :=
  ⟨fun h => by simpa using List.find?_some (show all.find? _ = _ from h), fun h => h ▸ ofId?_id k⟩

end Kind

inductive Source
  | btc | ltc | doge | xrp | algo
  deriving DecidableEq, Repr, Inhabited

namespace Source

def all : List Source :=
  [btc, ltc, doge, xrp, algo]

def id : Source → UInt32
  | btc => 0
  | ltc => 1
  | doge => 2
  | xrp => 3
  | algo => 4

/-- The ticker of the ledger's currency. -/
def ticker : Source → String
  | btc => "BTC"
  | ltc => "LTC"
  | doge => "DOGE"
  | xrp => "XRP"
  | algo => "ALGO"

/-- The short name of the ledger in descriptions of a prover. -/
def label : Source → String
  | btc => "Btc"
  | ltc => "Ltc"
  | doge => "Doge"
  | xrp => "Xrp"
  | algo => "Algo"

def ofId? (n : UInt32) : Option Source :=
  all.find? (·.id == n)

/-- What is said of a number that is no source. -/
def unknown (n : UInt32) : String :=
  s!"unknown source id {n}"

theorem mem_all (s : Source) : s ∈ all := by
  cases s <;> decide

theorem ofId?_id (s : Source) : ofId? s.id = some s := by
  cases s <;> rfl

theorem ofId?_eq_some_iff {n : UInt32} {s : Source} : ofId? n = some s ↔ s.id = n :=
  ⟨fun h => by simpa using List.find?_some (show all.find? _ = _ from h), fun h => h ▸ ofId?_id s⟩

end Source

inductive FieldKind
  | attestationType | sourceId | number | bytes
  deriving DecidableEq, Repr, Inhabited

namespace FieldKind

def all : List FieldKind :=
  [attestationType, sourceId, number, bytes]

def name : FieldKind → String
  | attestationType => "AttestationType"
  | sourceId => "SourceId"
  | number => "NumberLike"
  | bytes => "ByteSequenceLike"

def ofName? (s : String) : Option FieldKind :=
  all.find? (·.name == s)

end FieldKind

end Attestation
