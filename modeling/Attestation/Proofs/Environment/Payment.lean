import Mathlib
import Attestation.Proofs.Chain.Located
import Attestation.Proofs.Environment.Ending
import Attestation.Proofs.Validation.Payment

/-!
Payments from beginning to end (`prove_payment`). The prover locates the transaction and its entries,
and whatever it located the validator finds again. So the payment is proved, unless one of its numbers
is too large to be written, or an entry is taken for the first one where there is none.
-/

namespace Attestation

namespace Entry

variable {entries : List Entry} {address : Option String} {i : ℕ}

/-- Where an entry is looked for: the first one of an address, or the very first if no address is
asked for. -/
inductive Place (entries : List Entry) : Option String → ℕ → Prop
  | unasked : Place entries none 0
  | first {a : String} {i : ℕ} (ha : (entries[i]?).bind (·.address) = some a)
    (hfirst : ∀ j < i, (entries[j]?).bind (·.address) ≠ some a) : Place entries (some a) i

/-- An address is asked for, and no entry has it. -/
def Lacks (entries : List Entry) (address : Option String) : Prop :=
  ∃ a, address = some a ∧ ∀ x ∈ entries, x.address ≠ some a

lemma entryIndex?_eq_none_iff : entryIndex? entries address 0 = none ↔ Lacks entries address := by
  cases address with
  | none => simp [entryIndex?, Lacks]
  | some a => simp [entryIndex?, Lacks]

lemma entryIndex?_eq_some_iff :
    entryIndex? entries address 0 = some i ↔ Place entries address i := by
  cases address with
  | none =>
    simp only [entryIndex?, Option.some.injEq]
    constructor
    · rintro rfl
      exact .unasked
    · intro h
      cases h
      rfl
  | some a =>
    simp only [entryIndex?, List.findIdx?_eq_some_iff_getElem, beq_iff_eq]
    constructor
    · rintro ⟨hlt, ha, hfirst⟩
      refine .first ?_ fun j hj => ?_
      · rwa [List.getElem?_eq_getElem hlt]
      · rw [List.getElem?_eq_getElem (hj.trans hlt)]
        exact hfirst j hj
    · intro h
      cases h with
      | first ha hfirst =>
        obtain ⟨x, hx, ha⟩ := Option.bind_eq_some_iff.mp ha
        obtain ⟨hlt, rfl⟩ := List.getElem?_eq_some_iff.mp hx
        refine ⟨hlt, ha, fun j hj hj' => hfirst j hj ?_⟩
        rwa [List.getElem?_eq_getElem (hj.trans hlt)]

lemma exists_place (h : ¬ Lacks entries address) : ∃ i, Place entries address i := by
  rw [← entryIndex?_eq_none_iff] at h
  obtain ⟨i, hi⟩ := Option.ne_none_iff_exists'.mp h
  exact ⟨i, entryIndex?_eq_some_iff.mp hi⟩

lemma Place.address_eq {a : String} {x : Entry} (h : Place entries (some a) i)
    (hx : entries[i]? = some x) : x.address = some a := by
  cases h with
  | first ha hfirst => rwa [hx] at ha

end Entry

/-- A payment from one entry of a transaction to another one. -/
structure PaymentResponse.Between (m : PaymentResponse) (hash : Hash) (number : UInt64) (i j : ℕ)
    (x y : Entry) : Prop where
  transactionHash : m.transactionHash = hash
  blockNumber : m.blockNumber = number
  inUtxo : m.inUtxo.toNat = i
  utxo : m.utxo.toNat = j
  sourceAddressHash : m.sourceAddressHash = Validation.hashOrZero x.address
  receivingAddressHash : m.receivingAddressHash = Validation.hashOrZero y.address

namespace Validation

variable {c : Chain} {r : PaymentRequest} {t : Transaction} {b : Block} {i j : ℕ} {x y : Entry}
  {e : Response} {source : Source} {hash : Hash} {block : ℕ}

lemma index?_ofNat (hi : i < 256) (key : String) :
    ∃ k, index? (.ofNat i) key = some k ∧ k.toNat = i := by
  have hi' : (UInt64.ofNat i).toNat = i := UInt64.toNat_ofNat_of_lt' (hi.trans (by decide))
  have hn := uint64?_ofNat (UInt64.ofNat i) key
  rw [hi'] at hn
  have hlt : UInt64.ofNat i < 256 := by
    rw [UInt64.lt_iff_toNat_lt, hi']
    exact hi
  refine ⟨(UInt64.ofNat i).toUInt8, ?_, ?_⟩
  · rw [index?, hn, Option.bind_eq_bind, Option.bind_some, if_pos hlt]
  · rw [UInt64.toNat_toUInt8, hi', Nat.mod_eq_of_lt hi]

section Located

variable (hconfirmed : Confirmed c (Word.toBytes hash) (.ofNat block) t b) (hi : i < 256)
  (hj : j < 256)
include hconfirmed hi hj

/-- A payment between two entries of a confirmed transaction has a response. -/
lemma expectedResponse_of_entries (hx : t.inputs[i]? = some x) (hy : t.outputs[j]? = some y) :
    ∃ m, expectedResponse c (.payment c.source hash block i j) = some (.pending (.payment m)) ∧
      m.Between hash b.number i j x y := by
  obtain ⟨k, hk, rfl⟩ := index?_ofNat hi "inUtxo"
  obtain ⟨l, hl, rfl⟩ := index?_ofNat hj "utxo"
  have hhash := Option.some.inj ((Hash.ofBytes?_toBytes hash).symm.trans hconfirmed.id)
  let m : PaymentResponse := {
    blockNumber := b.number
    blockTimestamp := b.timestamp
    transactionHash := t.hash
    inUtxo := k
    utxo := l
    sourceAddressHash := hashOrZero x.address
    receivingAddressHash := hashOrZero y.address
    spentAmount := amount (t.spent x.address)
    receivedAmount := amount (t.received y.address)
    paymentReference := t.reference.getD Hash.zero
    oneToOne := t.isOneToOne x.address y.address
    status := t.status.code }
  refine ⟨m, (expectedResponse_payment_iff rfl).mpr ⟨rfl, m, ⟨t, x.address, y.address, ?_⟩, rfl⟩,
    ⟨hhash.symm, rfl, rfl, rfl, rfl, rfl⟩⟩
  exact {
    confirmed := ⟨b, hconfirmed, rfl, rfl⟩
    inUtxo := hk
    utxo := hl
    input := congrArg (Option.map (·.address)) hx
    output := congrArg (Option.map (·.address)) hy
    transactionHash := rfl
    sourceAddressHash := rfl
    receivingAddressHash := rfl
    spentAmount := rfl
    receivedAmount := rfl
    paymentReference := rfl
    oneToOne := rfl
    status := rfl }

lemma expectedResponse_of_missing (h : t.inputs[i]? = none ∨ t.outputs[j]? = none) :
    expectedResponse c (.payment c.source hash block i j) = none := by
  obtain ⟨k, hk, rfl⟩ := index?_ofNat hi "inUtxo"
  obtain ⟨l, hl, rfl⟩ := index?_ofNat hj "utxo"
  by_contra hne
  obtain ⟨e, he⟩ := Option.ne_none_iff_exists'.mp hne
  obtain ⟨-, m, ⟨t', source, receiver, hm⟩, -⟩ := (expectedResponse_payment_iff rfl).mp he
  obtain ⟨b', hb', -⟩ := hm.confirmed
  have hhash := Option.some.inj (hconfirmed.id.symm.trans hb'.id)
  have hfound := hconfirmed.found
  rw [hhash, hb'.found] at hfound
  obtain ⟨rfl, -⟩ := Prod.mk.inj (Option.some.inj hfound)
  rcases h with h | h
  · have hin := hm.input
    rw [← Option.some.inj (hk.symm.trans hm.inUtxo), h] at hin
    cases hin
  · have hout := hm.output
    rw [← Option.some.inj (hl.symm.trans hm.utxo), h] at hout
    cases hout

end Located

end Validation

namespace Claim

open Entry

variable {c : Chain} {t : Transaction} {hash : Hash} {number : UInt64} {i j : ℕ}
  {source receiver address : Option String} {entries : List Entry}

lemma entryIndex_of_place (h : Place entries address i) :
    c.ledger.entryIndex entries address = .ok i := by
  rw [Ledger.entryIndex, entryIndex?_eq_some_iff.mpr h]

lemma entryIndex_of_lacks (h : Lacks entries address) : c.ledger.entryIndex entries address =
    .error (.subjectNotFound ("address " ++ address.getD "" ++ " in transaction") c.height) := by
  rw [Ledger.entryIndex, entryIndex?_eq_none_iff.mpr h]
  rfl

lemma paymentRequest_of_error {f : Fault} (h : c.ledger.locate hash = .error f) :
    paymentRequest c.ledger hash source receiver = .error f := by
  rw [paymentRequest, h, Except.error_bind]

section Found

variable (hf : c.transaction? hash = some (t, number))
include hf

lemma paymentRequest_of_confirmed (hc : c.isConfirmed number = true)
    (source receiver : Option String) : paymentRequest c.ledger hash source receiver =
      c.ledger.entryIndex t.inputs source >>= fun i =>
        c.ledger.entryIndex t.outputs receiver >>= fun j =>
          .ok (.payment c.source hash number.toNat (indexNumber i) (indexNumber j)) := by
  obtain ⟨b, rfl, -, hl⟩ := Chain.locate_of_confirmed hf hc
  rw [paymentRequest, hl, Except.ok_bind]
  rfl

lemma paymentRequest_of_places (hc : c.isConfirmed number = true) (hi : Place t.inputs source i)
    (hj : Place t.outputs receiver j) : paymentRequest c.ledger hash source receiver =
      .ok (.payment c.source hash number.toNat (indexNumber i) (indexNumber j)) := by
  rw [paymentRequest_of_confirmed hf hc, entryIndex_of_place hi, Except.ok_bind,
    entryIndex_of_place hj, Except.ok_bind]

lemma paymentRequest_of_unlocated (h : c.isConfirmed number = false ∨ Lacks t.inputs source ∨
    Lacks t.outputs receiver) : ∃ subject, paymentRequest c.ledger hash source receiver =
      .error (.subjectNotFound subject c.height) := by
  cases hc : c.isConfirmed number with
  | false => exact ⟨_, paymentRequest_of_error (Chain.locate_of_unconfirmed hf hc)⟩
  | true =>
    have hrequest := paymentRequest_of_confirmed hf hc source receiver
    rw [hc] at h
    by_cases hs : Lacks t.inputs source
    · exact ⟨_, by rw [hrequest, entryIndex_of_lacks hs, Except.error_bind]⟩
    · obtain ⟨i, hi⟩ := exists_place hs
      have hlacks : Lacks t.outputs receiver := by simpa [hs] using h
      exact ⟨_, by rw [hrequest, entryIndex_of_place hi, Except.ok_bind,
        entryIndex_of_lacks hlacks, Except.error_bind]⟩

end Found

lemma indexNumber_lt (i : ℕ) : indexNumber i < 2 ^ 256 := by
  have hsize : UInt64.size < 2 ^ 256 := by decide
  rw [indexNumber]
  omega

lemma indexNumber_eq (h : indexNumber i < 256 ^ 1) : indexNumber i = i := by
  have hsize : 256 < UInt64.size := by decide
  rw [indexNumber] at h ⊢
  omega

end Claim

namespace Environment

open Claim Entry Validation

variable {e : Environment}

theorem prove_payment (hopen : e.network.Open) (hu : e.isCancelled e.token = false)
    (room : e.network.current.toNat + 1 < UInt64.size) (hash : Hash)
    (source receiver : Option String) :
    let claim : Claim := .payment hash source receiver
    (¬ e.chain.Lists hash → e.Unfound claim) ∧
    (e.chain.Lists hash → ∃ t n, e.chain.transaction? hash = some (t, n)) ∧
    (∀ t n, e.chain.transaction? hash = some (t, n) →
      (e.chain.isConfirmed n = false ∨ Lacks t.inputs source ∨ Lacks t.outputs receiver →
        e.Unfound claim) ∧
      (e.chain.isConfirmed n = true → ¬ Lacks t.inputs source → ¬ Lacks t.outputs receiver →
        ∃ i j, Place t.inputs source i ∧ Place t.outputs receiver j ∧
          let numbers := [("blockNumber", 4, n.toNat), ("inUtxo", 1, indexNumber i),
            ("utxo", 1, indexNumber j)]
          (∀ error, overlong? numbers = some error →
            e.prove claim = (some (.error (.attestation error)), e)) ∧
          (overlong? numbers = none →
            (∀ x y, t.inputs[i]? = some x → t.outputs[j]? = some y →
              ∃ p m, (e.prove claim).1 = some (.ok (.proved p)) ∧ p.response.body = .payment m ∧
                m.Between hash n i j x y ∧
                (∀ a, source = some a → m.sourceAddressHash = addressHash a) ∧
                ∀ a, receiver = some a → m.receivingAddressHash = addressHash a) ∧
            (t.inputs[i]? = none ∨ t.outputs[j]? = none →
              (e.prove claim).1 = some (.ok (.notProved .fetched)))))) ∧
    (e.chain.pages.length < UInt64.size → ∀ n, e.chain.isConfirmed n = true ↔
      n.toNat + e.chain.confirmations.toNat ≤ e.chain.height.toNat) := by
  intro claim
  refine ⟨fun hlists => ?_, Chain.exists_transaction?, fun t n hf => ⟨fun h => ?_, ?_⟩,
    fun few n => Chain.isConfirmed_iff few⟩
  · have habsent := Chain.transaction?_eq_none_iff.mpr hlists
    exact unfound_of_error (paymentRequest_of_error (Chain.locate_of_absent habsent))
  · obtain ⟨subject, hsubject⟩ := paymentRequest_of_unlocated hf h
    exact unfound_of_error hsubject
  · intro hc hs hd
    obtain ⟨i, hi⟩ := exists_place hs
    obtain ⟨j, hj⟩ := exists_place hd
    have hr : claim.request e.chain.ledger e.settings.salt = _ :=
      paymentRequest_of_places hf hc hi hj
    have hn : n.toNat < 2 ^ 256 := n.toNat_lt.trans (by decide)
    have hexcess := Request.excess?_payment e.chain.source hash hn (indexNumber_lt i)
      (indexNumber_lt j)
    refine ⟨i, j, hi, hj, fun error herror => ?_, fun hfits => ?_⟩
    · have he := Codec.encode_eq_error_of_plain Request.plain_payment (hexcess.trans herror)
      exact prove_of_refused hr he
    · rw [hfits] at hexcess
      have hsmall := overlong?_eq_none_iff.mp hfits
      have hi' := indexNumber_eq (hsmall ("inUtxo", 1, indexNumber i) (by simp))
      have hj' := indexNumber_eq (hsmall ("utxo", 1, indexNumber j) (by simp))
      have hilt : i < 256 := hi' ▸ hsmall ("inUtxo", 1, indexNumber i) (by simp)
      have hjlt : j < 256 := hj' ▸ hsmall ("utxo", 1, indexNumber j) (by simp)
      rw [hi', hj'] at hr hexcess
      obtain ⟨b, rfl, hconfirmed, -⟩ := Chain.locate_of_confirmed hf hc
      constructor
      · intro x y hx hy
        obtain ⟨m, hexpected, hm⟩ := expectedResponse_of_entries hconfirmed hilt hjlt hx hy
        obtain ⟨p, hp, -, hbody⟩ := proved_of_expected hr hopen hu room Request.plain_payment
          hexcess rfl hexpected
        refine ⟨p, m, hp, hbody, hm, ?_, ?_⟩
        · rintro a rfl
          rw [hm.sourceAddressHash, hi.address_eq hx]
          rfl
        · rintro a rfl
          rw [hm.receivingAddressHash, hj.address_eq hy]
          rfl
      · intro hmissing
        have hexpected := expectedResponse_of_missing hconfirmed hilt hjlt hmissing
        exact notProved_of_unexpected hr hopen hu room Request.plain_payment hexcess hexpected

/-- Dave paid Carol, and Eve is not in it. -/
theorem prove_payment_carol : ∃ (e : Environment) (p : Proof) (m : PaymentResponse),
    e.Reachable ∧ e.network.Open ∧ e.isCancelled e.token = false ∧
      e.network.current.toNat + 1 < UInt64.size ∧
      e.chain.transaction? 7 = some (toCarol 50, 2) ∧
      (e.prove (.payment 7 (some "dave") none)).1 = some (.ok (.proved p)) ∧
      p.response.body = .payment m ∧ m.Between 7 2 0 0 ⟨some "dave", 50⟩ ⟨some "carol", 50⟩ ∧
      e.Unfound (.payment 7 none (some "eve")) ∧ e.Unfound (.payment 8 none none) := by
  let e : Environment := .start (carolsChain 50) .auto standardSalt .standard
  have h : e.Reachable :=
    ⟨carolsChain 50, .auto, standardSalt, .standard, [], reachable_carolsChain, rfl⟩
  have hopen : e.network.Open := ⟨rfl, rfl, rfl⟩
  have room : e.network.current.toNat + 1 < UInt64.size := by decide
  have hf : e.chain.transaction? 7 = some (toCarol 50, 2) := rfl
  obtain ⟨-, -, hfound, -⟩ := prove_payment hopen rfl room 7 (some "dave") none
  have hdave : ¬ Lacks (toCarol 50).inputs (some "dave") := by
    rintro ⟨a, ha, hlacks⟩
    cases ha
    exact hlacks _ List.mem_cons_self rfl
  have hnone : ¬ Lacks (toCarol 50).outputs none := by
    rintro ⟨a, ha, -⟩
    cases ha
  obtain ⟨i, j, hi, hj, -, hproved⟩ := (hfound _ _ hf).2 rfl hdave hnone
  have hi' : some 0 = some i := entryIndex?_eq_some_iff.mpr hi
  cases hi'
  cases hj
  obtain ⟨p, m, hp, hm, hbetween, -⟩ := (hproved rfl).1 _ _ rfl rfl
  have heve : Lacks (toCarol 50).outputs (some "eve") := entryIndex?_eq_none_iff.mp rfl
  obtain ⟨-, -, hfound', -⟩ := prove_payment hopen rfl room 7 none (some "eve")
  obtain ⟨habsent, -⟩ := prove_payment hopen rfl room 8 none none
  have hlists : ¬ e.chain.Lists 8 := Chain.transaction?_eq_none_iff.mp rfl
  exact ⟨e, p, m, h, hopen, rfl, room, hf, hp, hm, hbetween,
    (hfound' _ _ hf).1 (.inr (.inr heve)), habsent hlists⟩

end Environment

end Attestation
