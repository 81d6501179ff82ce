import Mathlib
import Attestation.Chain.History
import Attestation.Hash.Lemmas
import Attestation.Proofs.Codec.Field
import Attestation.Proofs.Except
import Attestation.Proofs.Sponge
import Attestation.Proofs.Validation.Amount
import Attestation.Proofs.Validation.Window

/-!
What it says that no payment came: of the transactions that the ledger finds in the window, none
counts as paying the amount (`nonexistence?_eq_some_iff`). So none paid it, as far as amounts are
counted (`unpaid_of_nonexistence`). Above the limit a payment in full goes unseen
(`unseen_payment`).
-/

namespace Attestation

def NonexistenceResponse.Covers (m : NonexistenceResponse) (number : UInt64) : Prop :=
  m.lowerBoundaryBlockNumber ≤ number ∧ number < m.firstOverflowBlockNumber

instance (m : NonexistenceResponse) (number : UInt64) : Decidable (m.Covers number) :=
  inferInstanceAs (Decidable (_ ∧ _))

namespace Validation

variable {c : Chain} {r : Request} {e : Response} {q : NonexistenceRequest}
  {m : NonexistenceResponse} {t : Transaction} {number : UInt64}

structure Absence (c : Chain) (q : NonexistenceRequest) (m : NonexistenceResponse) : Prop where
  minimal : uint64? q.minimalBlockNumber "minimalBlockNumber" = some m.lowerBoundaryBlockNumber
  deadlineBlock :
    uint64? q.deadlineBlockNumber "deadlineBlockNumber" = some m.deadlineBlockNumber
  deadlineTimestamp :
    uint64? q.deadlineTimestamp "deadlineTimestamp" = some m.deadlineTimestamp
  amount : ∃ a, q.amount.value = .ok a ∧ a.toNat = m.amount.toNat
  destination : Hash.ofBytes? q.destinationAddressHash = some m.destinationAddressHash
  reference : Hash.ofBytes? q.paymentReference = some m.paymentReference
  ordered : m.lowerBoundaryBlockNumber ≤ m.deadlineBlockNumber
  referenced : m.paymentReference ≠ Hash.zero
  lower : ∃ b, c.block? m.lowerBoundaryBlockNumber = some b ∧
    b.timestamp = m.lowerBoundaryBlockTimestamp
  overflow : ∃ b, c.firstOverflow? m.deadlineBlockNumber m.deadlineTimestamp = some b ∧
    b.number = m.firstOverflowBlockNumber ∧ b.timestamp = m.firstOverflowBlockTimestamp
  confirmed : c.isConfirmed m.firstOverflowBlockNumber = true
  unpaid : ∀ t ∈ transactionsBetween c m.lowerBoundaryBlockNumber m.firstOverflowBlockNumber,
    t.pays m.paymentReference m.destinationAddressHash m.amount.toNat = false

lemma nonexistence?_eq_some_iff : nonexistence? c q = some m ↔ Absence c q m := by
  simp only [nonexistence?, Option.bind_eq_bind, Option.bind_eq_some_iff, Option.guard_eq_some',
    Option.pure_def, Option.some.injEq, Except.toOption_eq_some_iff, Codec.resolve_eq_ok_iff,
    exists_const, Bool.not_eq_true', List.any_eq_false, Bool.not_eq_true]
  constructor
  · rintro ⟨minimal, hminimal, last, hlast, time, htime, a, ha, hlt, destination, hdestination,
      reference, hreference, ⟨hordered, hreferenced⟩, lower, hlower, overflow, hoverflow,
      hconfirmed, hunpaid, rfl⟩
    have hnumber := Chain.number_of_block? hlower
    have hamount : (BitVec.ofNat 128 a.toNat).toNat = a.toNat := Nat.mod_eq_of_lt hlt
    subst hnumber
    exact {
      minimal := hminimal
      deadlineBlock := hlast
      deadlineTimestamp := htime
      amount := ⟨a, ha, hamount.symm⟩
      destination := hdestination
      reference := hreference
      ordered := hordered
      referenced := hreferenced
      lower := ⟨lower, hlower, rfl⟩
      overflow := ⟨overflow, hoverflow, rfl, rfl⟩
      confirmed := hconfirmed
      unpaid := by simpa only [hamount] using hunpaid }
  · intro h
    obtain ⟨a, ha, hamount⟩ := h.amount
    obtain ⟨lower, hlower, hlowertime⟩ := h.lower
    obtain ⟨overflow, hoverflow, hnumber, htime⟩ := h.overflow
    refine ⟨_, h.minimal, _, h.deadlineBlock, _, h.deadlineTimestamp, a, ha,
      hamount ▸ m.amount.isLt, _, h.destination, _, h.reference, ⟨h.ordered, h.referenced⟩, lower,
      hlower, overflow, hoverflow, hnumber ▸ h.confirmed, ?_, ?_⟩
    · rw [hnumber, hamount]
      exact h.unpaid
    · rw [hamount, hnumber, htime, hlowertime, Chain.number_of_block? hlower, BitVec.ofNat_toNat,
        BitVec.setWidth_eq]

lemma expectedResponse_eq_some_iff {α : Type} {x : Option α} {body : α → ResponseBody}
    (hx : body? c r.body = x.map body) : expectedResponse c r = some e ↔
      r.source = c.source ∧ ∃ m, x = some m ∧ .pending (body m) = e := by
  rw [expectedResponse, hx, Option.ite_none_right_eq_some, Option.map_map, Option.map_eq_some_iff]
  rfl

lemma expectedResponse_nonexistence_iff (hr : r.body = .nonexistence q) :
    expectedResponse c r = some e ↔
      r.source = c.source ∧ ∃ m, Absence c q m ∧ .pending (.nonexistence m) = e := by
  have hx : body? c r.body = (nonexistence? c q).map .nonexistence := by rw [hr, body?]
  simp only [expectedResponse_eq_some_iff hx, nonexistence?_eq_some_iff]

/-- A payment in the window is seen unless its hash was mined again. -/
lemma Absence.pays_eq_false {p : Page} (h : Absence c q m) (hp : p ∈ c.pages)
    (hc : m.Covers p.number) (ht : t ∈ p.transactions)
    (hf : c.transaction? t.hash = some (t, number)) :
    t.pays m.paymentReference m.destinationAddressHash m.amount.toNat = false :=
  h.unpaid t (mem_transactionsBetween.mpr ⟨p, hp, hc, t, ht, number, hf⟩)

section Carol

variable {paid asked : BitVec 128}

def toCarol (paid : BitVec 128) : Transaction :=
  ⟨7, [⟨some "dave", paid⟩], [⟨some "carol", paid⟩], some 7, .success⟩

/-- Dave pays Carol in block 2. -/
def carolsChain (paid : BitVec 128) : Chain :=
  (((Chain.start .xrp 0 10).mineEmpty 1).mine [toCarol paid]).mineEmpty 3

def notToCarol (first : UInt64) (asked : BitVec 128) : Request :=
  .nonexistence .xrp (addressHash "carol") 7 asked.toNat first.toNat 3 1700000030

def nothingToCarol (first time : UInt64) (asked : BitVec 128) : NonexistenceResponse :=
  ⟨3, 1700000030, addressHash "carol", 7, asked, first, time, 4, 1700000040⟩

lemma reachable_carolsChain : (carolsChain paid).Reachable :=
  ⟨.xrp, 0, 10, [.mineEmpty 1, .mine [toCarol paid], .mineEmpty 3], rfl⟩

lemma exists_page_carolsChain (paid : BitVec 128) :
    ∃ p ∈ (carolsChain paid).pages, p.number = 2 ∧ toCarol paid ∈ p.transactions :=
  ⟨_, List.mem_of_getElem? (rfl : (carolsChain paid).pages[2]? = some _), rfl, List.mem_cons_self⟩

lemma transaction?_carolsChain :
    (carolsChain paid).transaction? (toCarol paid).hash = some (toCarol paid, 2) :=
  rfl

lemma transactionsBetween_carolsChain :
    transactionsBetween (carolsChain paid) 1 4 = [toCarol paid] :=
  rfl

lemma hashesTo_carol_carol : hashesTo (addressHash "carol") "carol" = true :=
  beq_self_eq_true _

lemma hashesTo_carol_dave : hashesTo (addressHash "carol") "dave" = false := by
  rw [hashesTo, addressHash, addressHash, keccak_eq, keccak_eq]
  decide +kernel

lemma total_inputs_toCarol :
    Entry.total (toCarol paid).inputs (hashesTo (addressHash "carol")) = 0 := by
  rw [toCarol, Entry.total_singleton, hashesTo_carol_dave]
  rfl

lemma total_outputs_toCarol :
    Entry.total (toCarol paid).outputs (hashesTo (addressHash "carol")) = paid.toNat := by
  rw [toCarol, Entry.total_singleton, hashesTo_carol_carol]
  rfl

lemma paid_toCarol : (toCarol paid).paid (hashesTo (addressHash "carol")) = paid.toNat := by
  rw [Transaction.paid, total_inputs_toCarol, total_outputs_toCarol]
  simp

lemma expectedResponse_notToCarol {first time : UInt64} {b : Block} (hfirst : first ≤ 3)
    (hb : (carolsChain paid).block? first = some b) (htime : b.timestamp = time)
    (h : ∀ t ∈ transactionsBetween (carolsChain paid) first 4,
      t.pays 7 (addressHash "carol") asked.toNat = false) :
    expectedResponse (carolsChain paid) (notToCarol first asked) =
      some (.pending (.nonexistence (nothingToCarol first time asked))) := by
  refine (expectedResponse_nonexistence_iff rfl).mpr ⟨rfl, _, ?_, rfl⟩
  have ha : (BitVec.ofNat 256 asked.toNat).toNat = asked.toNat :=
    Nat.mod_eq_of_lt (asked.isLt.trans (by decide))
  exact {
    minimal := uint64?_ofNat _ _
    deadlineBlock := rfl
    deadlineTimestamp := rfl
    amount := ⟨_, rfl, ha⟩
    destination := Hash.ofBytes?_toBytes _
    reference := rfl
    ordered := hfirst
    referenced := (by decide : (7 : Hash) ≠ Hash.zero)
    lower := ⟨b, hb, htime⟩
    overflow := ⟨_, rfl, rfl, rfl⟩
    confirmed := rfl
    unpaid := h }

/-- The window has the payment in it. -/
lemma expectedResponse_notToCarol_one
    (h : (toCarol paid).pays 7 (addressHash "carol") asked.toNat = false) :
    expectedResponse (carolsChain paid) (notToCarol 1 asked) =
      some (.pending (.nonexistence (nothingToCarol 1 1700000010 asked))) := by
  refine expectedResponse_notToCarol (by decide) rfl rfl ?_
  intro t ht
  cases List.mem_singleton.mp (transactionsBetween_carolsChain ▸ ht)
  exact h

end Carol

theorem unpaid_of_nonexistence (hr : r.body = .nonexistence q)
    (h : expectedResponse c r = some e) :
    ∃ m, e = .pending (.nonexistence m) ∧ (∃ a, q.amount.value = .ok a ∧ a.toNat = m.amount.toNat) ∧
      Hash.ofBytes? q.destinationAddressHash = some m.destinationAddressHash ∧
      Hash.ofBytes? q.paymentReference = some m.paymentReference ∧
      ∀ p ∈ c.pages, m.Covers p.number → ∀ t ∈ p.transactions, t.status = .success →
        t.reference = some m.paymentReference →
        ∀ number, c.transaction? t.hash = some (t, number) →
        min (m.amount.toNat + Entry.total t.inputs (hashesTo m.destinationAddressHash))
          (Entry.total t.outputs (hashesTo m.destinationAddressHash)) ≤ Entry.amountLimit →
        t.paid (hashesTo m.destinationAddressHash) < m.amount.toNat := by
  obtain ⟨-, m, hm, rfl⟩ := (expectedResponse_nonexistence_iff hr).mp h
  refine ⟨m, rfl, hm.amount, hm.destination, hm.reference, ?_⟩
  intro p hp hc t ht hs href number hf hl
  have hunpaid := hm.pays_eq_false hp hc ht hf
  rw [Bool.eq_false_iff, Ne, Transaction.pays_iff] at hunpaid
  apply Transaction.paid_lt_of_balanceChange_lt hl
  by_contra hle
  exact hunpaid ⟨hs, href, not_lt.mp hle⟩

/-- Carol got 50, and not 51. -/
theorem unpaid_of_nonexistence_carol :
    expectedResponse (carolsChain 50) (notToCarol 1 51) =
        some (.pending (.nonexistence (nothingToCarol 1 1700000010 51))) ∧
      (toCarol 50).paid (hashesTo (addressHash "carol")) < (51 : BitVec 128).toNat := by
  have hpays : (toCarol 50).pays 7 (addressHash "carol") (51 : BitVec 128).toNat = false := by
    rw [Bool.eq_false_iff, Ne, Transaction.pays_iff, Transaction.balanceChange,
      total_inputs_toCarol, total_outputs_toCarol]
    decide
  have he := expectedResponse_notToCarol_one hpays
  obtain ⟨m, hm, -, -, -, hunpaid⟩ := unpaid_of_nonexistence rfl he
  cases hm
  obtain ⟨p, hp, hn, ht⟩ := exists_page_carolsChain 50
  have hlimit : Entry.total (toCarol 50).outputs (hashesTo (addressHash "carol")) ≤
      Entry.amountLimit := by
    rw [total_outputs_toCarol]
    decide
  exact ⟨he, hunpaid p hp (hn ▸ by decide) (toCarol 50) ht rfl rfl 2 transaction?_carolsChain
    ((min_le_right _ _).trans hlimit)⟩

/-- Carol got all of it, and yet the ledger says that nobody paid. -/
theorem unseen_payment : ∃ m p,
    expectedResponse (carolsChain (1 <<< 127)) (notToCarol 1 (1 <<< 127)) =
        some (.pending (.nonexistence m)) ∧
      (carolsChain (1 <<< 127)).Reachable ∧ p ∈ (carolsChain (1 <<< 127)).pages ∧
      m.Covers p.number ∧ toCarol (1 <<< 127) ∈ p.transactions ∧
      (toCarol (1 <<< 127)).status = .success ∧
      (toCarol (1 <<< 127)).reference = some m.paymentReference ∧
      (toCarol (1 <<< 127)).paid (hashesTo m.destinationAddressHash) = m.amount.toNat := by
  obtain ⟨p, hp, hn, ht⟩ := exists_page_carolsChain (1 <<< 127)
  have hlimit : Entry.amountLimit < (1 <<< 127 : BitVec 128).toNat := by decide
  have hpays : (toCarol (1 <<< 127)).pays 7 (addressHash "carol") (1 <<< 127 : BitVec 128).toNat =
      false := Transaction.pays_eq_false_of_lt hlimit
  exact ⟨_, p, expectedResponse_notToCarol_one hpays, reachable_carolsChain, hp, hn ▸ by decide, ht, rfl,
    rfl, paid_toCarol⟩

end Validation

end Attestation
