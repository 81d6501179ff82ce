import Mathlib
import Attestation.Proofs.Validation.Nonexistence

/-!
What it says that a payment came: the ledger finds its transaction in a confirmed block, and the
fields follow from it (`payment?_eq_some_iff`). Where the hashes of its addresses tell them apart,
it does not say of the same block that nobody paid (`not_covers_of_payment`).
-/

namespace Attestation

namespace Transaction

variable {t : Transaction} {a : String} {address : Option String}

/-- The hashes of the addresses of a transaction tell them apart, and from no address at all. -/
structure HashesApart (t : Transaction) : Prop where
  injective : ∀ a ∈ t.addresses, ∀ b ∈ t.addresses, addressHash a = addressHash b → a = b
  ne_zero : ∀ a ∈ t.addresses, addressHash a ≠ Hash.zero

/-- To look for the hash of an address is to look for the address. -/
lemma HashesApart.hashesTo_eq (h : t.HashesApart) (ha : a ∈ t.addresses)
    (hb : ∀ b, address = some b → b ∈ t.addresses) :
    hashesTo (Validation.hashOrZero address) a = (some a == address) := by
  cases address with
  | none => exact beq_eq_false_iff_ne.mpr (h.ne_zero a ha)
  | some b =>
    have hab : addressHash a = addressHash b ↔ a = b :=
      ⟨h.injective a ha b (hb b rfl), congrArg addressHash⟩
    rw [Bool.eq_iff_iff, beq_iff_eq, Option.some_inj, ← hab]
    exact beq_iff_eq

lemma mem_addresses_of_output {i : ℕ} (h : (t.outputs[i]?).map (·.address) = some (some a)) :
    a ∈ t.addresses := by
  obtain ⟨o, ho, ha⟩ := Option.map_eq_some_iff.mp h
  exact List.mem_filterMap.mpr ⟨o, List.mem_append_right _ (List.mem_of_getElem? ho), ha⟩

end Transaction

namespace Validation

variable {c : Chain} {r : PaymentRequest} {p : PaymentResponse} {t : Transaction}
  {source receiver : Option String} {request other : Request} {e : Response} {q : NonexistenceRequest}
  {m : NonexistenceResponse} {a : Word}

structure Evidence (c : Chain) (r : PaymentRequest) (p : PaymentResponse) (t : Transaction)
    (source receiver : Option String) : Prop where
  confirmed : ∃ b, Confirmed c r.id r.blockNumber t b ∧ b.number = p.blockNumber ∧
    b.timestamp = p.blockTimestamp
  inUtxo : index? r.inUtxo "inUtxo" = some p.inUtxo
  utxo : index? r.utxo "utxo" = some p.utxo
  input : (t.inputs[p.inUtxo.toNat]?).map (·.address) = some source
  output : (t.outputs[p.utxo.toNat]?).map (·.address) = some receiver
  transactionHash : t.hash = p.transactionHash
  sourceAddressHash : hashOrZero source = p.sourceAddressHash
  receivingAddressHash : hashOrZero receiver = p.receivingAddressHash
  spentAmount : amount (t.spent source) = p.spentAmount
  receivedAmount : amount (t.received receiver) = p.receivedAmount
  paymentReference : t.reference.getD Hash.zero = p.paymentReference
  oneToOne : t.isOneToOne source receiver = p.oneToOne
  status : t.status.code = p.status

lemma payment?_eq_some_iff :
    payment? c r = some p ↔ ∃ t source receiver, Evidence c r p t source receiver := by
  simp only [payment?, Option.bind_eq_bind, Option.bind_eq_some_iff, Option.pure_def,
    Option.some.injEq, Prod.exists, confirmed?_eq_some_iff]
  constructor
  · rintro ⟨t, b, hc, inUtxo, hin, utxo, hout, i, hi, o, ho, rfl⟩
    have hsource := congrArg (Option.map (·.address)) hi
    have hreceiver := congrArg (Option.map (·.address)) ho
    exact ⟨t, i.address, o.address, ⟨b, hc, rfl, rfl⟩, hin, hout, hsource, hreceiver, rfl, rfl, rfl,
      rfl, rfl, rfl, rfl, rfl⟩
  · rintro ⟨t, source, receiver, h⟩
    obtain ⟨b, hc, hnumber, htime⟩ := h.confirmed
    obtain ⟨i, hi, rfl⟩ := Option.map_eq_some_iff.mp h.input
    obtain ⟨o, ho, rfl⟩ := Option.map_eq_some_iff.mp h.output
    refine ⟨t, b, hc, _, h.inUtxo, _, h.utxo, i, hi, o, ho, ?_⟩
    rw [hnumber, htime, h.transactionHash, h.sourceAddressHash, h.receivingAddressHash,
      h.spentAmount, h.receivedAmount, h.paymentReference, h.oneToOne, h.status]

lemma expectedResponse_payment_iff (hr : request.body = .payment r) :
    expectedResponse c request = some e ↔ request.source = c.source ∧
      ∃ p, (∃ t source receiver, Evidence c r p t source receiver) ∧ .pending (.payment p) = e := by
  have hx : body? c request.body = (payment? c r).map .payment := by rw [hr, body?]
  simp only [expectedResponse_eq_some_iff hx, payment?_eq_some_iff]

lemma toInt_amount {i : ℤ} (h : |i| ≤ Entry.amountLimit) : (amount i).toInt = i := by
  obtain ⟨hlow, hhigh⟩ := abs_le.mp h
  rw [amount, BitVec.toInt_ofInt_eq_self (by decide)]
  · rw [Entry.amountLimit] at hlow
    omega
  · rw [Entry.amountLimit] at hhigh
    omega

lemma status_of_code_eq_zero {s : TransactionStatus} (h : s.code = 0) : s = .success := by
  cases s
  · rfl
  · cases h
  · cases h

namespace Evidence

lemma found (h : Evidence c r p t source receiver) :
    c.transaction? p.transactionHash = some (t, p.blockNumber) := by
  obtain ⟨b, hb, hnumber, -⟩ := h.confirmed
  rw [← h.transactionHash, ← hnumber]
  exact hb.found

lemma reference (h : Evidence c r p t source receiver) (hne : p.paymentReference ≠ Hash.zero) :
    t.reference = some p.paymentReference := by
  rw [← h.paymentReference] at hne ⊢
  cases hr : t.reference with
  | none => exact absurd (by rw [hr]; rfl) hne
  | some x => rfl

/-- What the payment gave to its receiver is what counts for the hash of the receiver. -/
lemma toInt_receivedAmount (h : Evidence c r p t source receiver) (hs : t.status = .success)
    (ht : t.HashesApart) :
    p.receivedAmount.toInt = t.balanceChange (hashesTo p.receivingAddressHash) := by
  have hmem : ∀ b, receiver = some b → b ∈ t.addresses := by
    rintro b rfl
    exact Transaction.mem_addresses_of_output h.output
  rw [← h.receivedAmount, ← h.receivingAddressHash, Transaction.received, if_pos hs,
    toInt_amount (t.abs_balanceChange_le _)]
  apply Transaction.balanceChange_congr
  intro a ha
  exact (ht.hashesTo_eq ha hmem).symm

lemma pays {amount : ℕ} (h : Evidence c r p t source receiver) (hs : p.status = 0)
    (ht : t.HashesApart) (hne : p.paymentReference ≠ Hash.zero)
    (hle : (amount : ℤ) ≤ p.receivedAmount.toInt) :
    t.pays p.paymentReference p.receivingAddressHash amount = true := by
  have hsuccess := status_of_code_eq_zero (h.status.trans hs)
  rw [h.toInt_receivedAmount hsuccess ht] at hle
  exact Transaction.pays_iff.mpr ⟨hsuccess, h.reference hne, hle⟩

end Evidence

section Carol

lemma hashesApart_toCarol {paid : BitVec 128} : (toCarol paid).HashesApart := by
  have hzero : addressHash "dave" ≠ Hash.zero ∧ addressHash "carol" ≠ Hash.zero := by
    rw [addressHash, addressHash, keccak_eq, keccak_eq]
    decide +kernel
  have hne : addressHash "dave" ≠ addressHash "carol" := beq_eq_false_iff_ne.mp hashesTo_carol_dave
  have hmem : ∀ a ∈ (toCarol paid).addresses, a = "dave" ∨ a = "carol" := by
    intro a ha
    simpa [Transaction.addresses, toCarol] using ha
  constructor
  · intro a ha b hb hab
    rcases hmem a ha with rfl | rfl <;> rcases hmem b hb with rfl | rfl
    · rfl
    · exact absurd hab hne
    · exact absurd hab.symm hne
    · rfl
  · intro a ha
    rcases hmem a ha with rfl | rfl
    · exact hzero.1
    · exact hzero.2

def fiftyToCarol : PaymentResponse where
  blockNumber := 2
  blockTimestamp := 1700000020
  transactionHash := 7
  inUtxo := 0
  utxo := 0
  sourceAddressHash := addressHash "dave"
  receivingAddressHash := addressHash "carol"
  spentAmount := 50
  receivedAmount := 50
  paymentReference := 7
  oneToOne := true
  status := 0

lemma expectedResponse_toCarol :
    expectedResponse (carolsChain 50) (.payment .xrp 7 2 0 0) =
      some (.pending (.payment fiftyToCarol)) := by
  refine (expectedResponse_payment_iff rfl).mpr
    ⟨rfl, _, ⟨toCarol 50, some "dave", some "carol", ?_⟩, rfl⟩
  obtain ⟨b, hb, htime⟩ : ∃ b, (carolsChain 50).block? 2 = some b ∧ b.timestamp = 1700000020 :=
    ⟨_, rfl, rfl⟩
  have hn := Chain.number_of_block? hb
  have hconfirmed : Confirmed (carolsChain 50) (Word.toBytes 7) (.ofNat 2) (toCarol 50) b := by
    constructor
    · exact Hash.ofBytes?_toBytes 7
    · rw [hn]
      exact transaction?_carolsChain
    · rw [hn]
      exact uint64?_ofNat 2 _
    · rw [hn]
      rfl
    · rw [hn]
      exact hb
  exact {
    confirmed := ⟨b, hconfirmed, hn, htime⟩
    inUtxo := rfl
    utxo := rfl
    input := rfl
    output := rfl
    transactionHash := rfl
    sourceAddressHash := rfl
    receivingAddressHash := rfl
    spentAmount := by decide
    receivedAmount := by decide
    paymentReference := rfl
    oneToOne := by decide
    status := rfl }

end Carol

theorem not_covers_of_payment (hr : request.body = .payment r)
    (hp : expectedResponse c request = some (.pending (.payment p))) (hs : p.status = 0)
    (hf : c.transaction? p.transactionHash = some (t, p.blockNumber)) (ht : t.HashesApart)
    (hq : other.body = .nonexistence q)
    (hreference : Hash.ofBytes? q.paymentReference = some p.paymentReference)
    (hdestination : Hash.ofBytes? q.destinationAddressHash = some p.receivingAddressHash)
    (ha : q.amount.value = .ok a) (hle : (a.toNat : ℤ) ≤ p.receivedAmount.toInt)
    (hm : expectedResponse c other = some (.pending (.nonexistence m))) :
    ¬ m.Covers p.blockNumber := by
  intro hcovers
  obtain ⟨-, p', ⟨t', source, receiver, h⟩, he⟩ := (expectedResponse_payment_iff hr).mp hp
  cases he
  cases h.found.symm.trans hf
  obtain ⟨-, m', habsent, he⟩ := (expectedResponse_nonexistence_iff hq).mp hm
  cases he
  have href := Option.some.inj (habsent.reference.symm.trans hreference)
  have hdest := Option.some.inj (habsent.destination.symm.trans hdestination)
  obtain ⟨a', ha', hamount⟩ := habsent.amount
  cases ha.symm.trans ha'
  -- The transaction of the payment lies in the window, and it pays what is asked for.
  obtain ⟨page, hpage, hn, hmem⟩ := Chain.exists_page_of_transaction? hf
  have hunpaid := habsent.pays_eq_false hpage (hn ▸ hcovers) hmem (h.transactionHash ▸ hf)
  have hpaid := h.pays hs ht (href ▸ habsent.referenced) hle
  rw [href, hdest, ← hamount, hpaid] at hunpaid
  cases hunpaid

/-- Carol got 50 in block 2, and nothing from block 3 on. -/
theorem not_covers_of_payment_carol :
    expectedResponse (carolsChain 50) (.payment .xrp 7 2 0 0) =
        some (.pending (.payment fiftyToCarol)) ∧
      (toCarol 50).HashesApart ∧
      expectedResponse (carolsChain 50) (notToCarol 3 50) =
        some (.pending (.nonexistence (nothingToCarol 3 1700000030 50))) ∧
      ¬ (nothingToCarol 3 1700000030 50).Covers fiftyToCarol.blockNumber := by
  have hm : expectedResponse (carolsChain 50) (notToCarol 3 50) =
      some (.pending (.nonexistence (nothingToCarol 3 1700000030 50))) := by
    refine expectedResponse_notToCarol (by decide) rfl rfl ?_
    intro t ht
    cases ht
  have hreference : Hash.ofBytes? (Word.toBytes 7) = some fiftyToCarol.paymentReference :=
    Hash.ofBytes?_toBytes _
  have hdestination : Hash.ofBytes? (Word.toBytes (addressHash "carol")) =
      some fiftyToCarol.receivingAddressHash := Hash.ofBytes?_toBytes _
  have hvalue : (Numeral.ofNat (50 : BitVec 128).toNat).value = .ok 50 := rfl
  have hle : ((50 : Word).toNat : ℤ) ≤ fiftyToCarol.receivedAmount.toInt := by decide
  refine ⟨expectedResponse_toCarol, hashesApart_toCarol, hm, ?_⟩
  exact not_covers_of_payment rfl expectedResponse_toCarol rfl transaction?_carolsChain
    hashesApart_toCarol rfl hreference hdestination hvalue hle hm

end Validation

end Attestation
