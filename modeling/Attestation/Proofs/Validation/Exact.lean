import Mathlib
import Attestation.Proofs.Validation.Payment

/-!
The amounts of a payment are what its transaction says. Where the entries of an address are worth
less than 2^127 on either side, their sums are counted in full, and the amounts reported are the
differences of the sums (`payment_exact`). A balance decrease reports the same as the payment.
-/

namespace Attestation

namespace Entry

variable {entries : List Entry} {address : String}

/-- What entries are worth together. -/
def worth (entries : List Entry) : ℕ :=
  (entries.map (·.value.toNat)).sum

/-- What the entries of an address are worth together. -/
def held (entries : List Entry) (address : String) : ℕ :=
  worth (entries.filter (·.address = some address))

lemma total_eq_held (entries : List Entry) (address : String) :
    total entries (fun a => some a == some address) = held entries address := by
  have hfilter : (fun e : Entry => e.address.any fun a => some a == some address) =
      fun e => decide (e.address = some address) := by
    funext e
    cases he : e.address with
    | none => rfl
    | some a => rw [Bool.eq_iff_iff, Option.any_some, beq_iff_eq, decide_eq_true_iff]
  rw [total, hfilter, held, worth, List.sum_eq_foldr, List.foldr_map]

lemma total_of_nobody (entries : List Entry) : total entries (fun a => some a == none) = 0 := by
  have hfilter : entries.filter (fun e => e.address.any fun a => some a == none) = [] := by
    rw [List.filter_eq_nil_iff]
    intro e _
    cases e.address with
    | none => exact Bool.false_ne_true
    | some a => exact Bool.false_ne_true
  rw [total, hfilter]
  rfl

end Entry

open Entry

namespace Transaction

variable {t : Transaction} {a : String} {address : Option String}

/-- The entries of an address are worth so little on either side that they are counted in full. -/
structure Counts (t : Transaction) (a : String) : Prop where
  inputs : held t.inputs a < 2 ^ 127
  outputs : held t.outputs a < 2 ^ 127

lemma Counts.balanceChange_eq (h : t.Counts a) :
    t.balanceChange (fun b => some b == some a) = held t.outputs a - held t.inputs a := by
  have hin := Nat.le_pred_of_lt h.inputs
  have hout := Nat.le_pred_of_lt h.outputs
  rw [← total_eq_held] at hin hout
  rw [balanceChange_eq_paid hin hout, paid, total_eq_held, total_eq_held]

lemma Counts.spent_eq (h : t.Counts a) : t.spent (some a) = held t.inputs a - held t.outputs a := by
  rw [spent, h.balanceChange_eq, neg_sub]

lemma Counts.received_eq (h : t.Counts a) (hs : t.status = .success) :
    t.received (some a) = held t.outputs a - held t.inputs a := by
  rw [received, if_pos hs, h.balanceChange_eq]

lemma balanceChange_nobody (t : Transaction) : t.balanceChange (fun a => some a == none) = 0 := by
  rw [balanceChange, total_of_nobody, total_of_nobody, sub_self]

lemma spent_none (t : Transaction) : t.spent none = 0 := by
  rw [spent, balanceChange_nobody, neg_zero]

lemma received_of_nothing (h : t.status ≠ .success ∨ address = none) : t.received address = 0 := by
  rw [received]
  split
  · next hs =>
    obtain rfl := h.resolve_left (not_not.mpr hs)
    exact balanceChange_nobody t
  · rfl

lemma abs_spent_le (t : Transaction) (address : Option String) :
    |t.spent address| ≤ amountLimit := by
  rw [spent, abs_neg]
  exact abs_balanceChange_le t _

lemma abs_received_le (t : Transaction) (address : Option String) :
    |t.received address| ≤ amountLimit := by
  rw [received]
  split
  · exact abs_balanceChange_le t _
  · exact abs_zero.trans_le (Int.natCast_nonneg _)

end Transaction

/-- The transaction and the entries that a payment request is about. -/
structure PaymentRequest.Selects (r : PaymentRequest) (c : Chain) (t : Transaction)
    (number : UInt64) (i o : Entry) : Prop where
  id : Hash.ofBytes? r.id = some t.hash
  found : c.transaction? t.hash = some (t, number)
  input : ∃ w, r.inUtxo.value = .ok w ∧ t.inputs[w.toNat]? = some i
  output : ∃ w, r.utxo.value = .ok w ∧ t.outputs[w.toNat]? = some o

lemma PaymentRequest.Selects.unique {r : PaymentRequest} {c : Chain} {t t' : Transaction}
    {number number' : UInt64} {i i' o o' : Entry} (h : r.Selects c t number i o)
    (h' : r.Selects c t' number' i' o') : t = t' ∧ number = number' ∧ i = i' ∧ o = o' := by
  have hf := h.found
  rw [Option.some.inj (h.id.symm.trans h'.id), h'.found] at hf
  obtain ⟨rfl, rfl⟩ := Prod.mk.inj (Option.some.inj hf)
  obtain ⟨v, hv, hi⟩ := h.input
  obtain ⟨w, hw, ho⟩ := h.output
  obtain ⟨v', hv', hi'⟩ := h'.input
  obtain ⟨w', hw', ho'⟩ := h'.output
  cases hv.symm.trans hv'
  cases hw.symm.trans hw'
  exact ⟨rfl, rfl, Option.some.inj (hi.symm.trans hi'), Option.some.inj (ho.symm.trans ho')⟩

namespace PaymentResponse

/-- The amounts of a payment from the entry `i` to the entry `o` as integers. -/
structure Exact (p : PaymentResponse) (t : Transaction) (i o : Entry) : Prop where
  spent : ∀ s, i.address = some s → t.Counts s →
    p.spentAmount.toInt = held t.inputs s - held t.outputs s
  received : ∀ d, o.address = some d → t.status = .success → t.Counts d →
    p.receivedAmount.toInt = held t.outputs d - held t.inputs d
  unspent : i.address = none → p.spentAmount = 0
  unreceived : t.status ≠ .success ∨ o.address = none → p.receivedAmount = 0

/-- What a balance decrease says of a payment. -/
def decrease (p : PaymentResponse) : BalanceDecreasingResponse where
  blockNumber := p.blockNumber
  blockTimestamp := p.blockTimestamp
  transactionHash := p.transactionHash
  inUtxo := p.inUtxo
  sourceAddressHash := p.sourceAddressHash
  spentAmount := p.spentAmount
  paymentReference := p.paymentReference

end PaymentResponse

namespace Validation

variable {c : Chain} {r : PaymentRequest} {p : PaymentResponse} {t : Transaction}
  {source receiver : Option String} {request : Request} {e : Response}
  {q : BalanceDecreasingRequest} {i o : Entry}

namespace Evidence

lemma selects (h : Evidence c r p t source receiver) : ∃ i o, r.Selects c t p.blockNumber i o ∧
    i.address = source ∧ o.address = receiver := by
  obtain ⟨i, hi, hsource⟩ := Option.map_eq_some_iff.mp h.input
  obtain ⟨o, ho, hreceiver⟩ := Option.map_eq_some_iff.mp h.output
  obtain ⟨v, hv, hin⟩ := index?_eq_some_iff.mp h.inUtxo
  obtain ⟨w, hw, hout⟩ := index?_eq_some_iff.mp h.utxo
  obtain ⟨b, hb, -⟩ := h.confirmed
  refine ⟨i, o, ?_, hsource, hreceiver⟩
  exact {
    id := hb.id
    found := h.transactionHash ▸ h.found
    input := ⟨v, hv, hin ▸ hi⟩
    output := ⟨w, hw, hout ▸ ho⟩ }

lemma toInt_spent (h : Evidence c r p t source receiver) :
    p.spentAmount.toInt = t.spent source := by
  rw [← h.spentAmount, toInt_amount (t.abs_spent_le source)]

lemma toInt_received (h : Evidence c r p t source receiver) :
    p.receivedAmount.toInt = t.received receiver := by
  rw [← h.receivedAmount, toInt_amount (t.abs_received_le receiver)]

lemma exact (h : Evidence c r p t i.address o.address) : p.Exact t i o where
  spent s hs ht := by
    rw [h.toInt_spent, hs, ht.spent_eq]
  received d hd hs ht := by
    rw [h.toInt_received, hd, ht.received_eq hs]
  unspent hi := by
    rw [← h.spentAmount, hi, Transaction.spent_none]
    rfl
  unreceived ho := by
    rw [← h.receivedAmount, Transaction.received_of_nothing ho]
    rfl

lemma balanceDecreasing?_eq (h : Evidence c r p t source receiver)
    (hid : Hash.ofBytes? q.id = Hash.ofBytes? r.id)
    (hblock : q.blockNumber.value = r.blockNumber.value)
    (hin : q.inUtxo.value = r.inUtxo.value) : balanceDecreasing? c q = some p.decrease := by
  obtain ⟨b, hb, hnumber, htime⟩ := h.confirmed
  obtain ⟨x, hx, rfl⟩ := Option.map_eq_some_iff.mp h.input
  rw [balanceDecreasing?, confirmed?_congr hid hblock, confirmed?_eq_some_iff.mpr hb,
    index?_congr hin, h.inUtxo]
  simp only [Option.bind_eq_bind, Option.bind_some, hx, Option.pure_def]
  rw [PaymentResponse.decrease, hnumber, htime, h.transactionHash, h.sourceAddressHash,
    h.spentAmount, h.paymentReference]

end Evidence

theorem payment_exact (hr : request.body = .payment r) (he : expectedResponse c request = some e) :
    ∃ p t i o, e = .pending (.payment p) ∧ r.Selects c t p.blockNumber i o ∧ p.Exact t i o ∧
      ∀ other q, other.source = request.source → other.body = .balanceDecreasing q →
        Hash.ofBytes? q.id = Hash.ofBytes? r.id → q.blockNumber.value = r.blockNumber.value →
        q.inUtxo.value = r.inUtxo.value →
        expectedResponse c other = some (.pending (.balanceDecreasing p.decrease)) := by
  obtain ⟨hsource, p, ⟨t, source, receiver, h⟩, rfl⟩ := (expectedResponse_payment_iff hr).mp he
  obtain ⟨i, o, hselects, rfl, rfl⟩ := h.selects
  refine ⟨p, t, i, o, rfl, hselects, h.exact, ?_⟩
  intro other q hother hq hid hblock hin
  have hx : body? c other.body = (balanceDecreasing? c q).map .balanceDecreasing := by
    rw [hq, body?]
  exact (expectedResponse_eq_some_iff hx).mpr
    ⟨hother.trans hsource, _, h.balanceDecreasing?_eq hid hblock hin, rfl⟩

/-- Dave pays Carol and more than his own part to himself; on either side there is an entry of
nobody. -/
def daveGains : Transaction where
  hash := 9
  inputs := [⟨some "dave", 50⟩, ⟨none, 90⟩, ⟨some "dave", 7⟩]
  outputs := [⟨some "carol", 30⟩, ⟨some "dave", 77⟩, ⟨none, 3⟩]
  reference := none
  status := .success

def davesChain : Chain :=
  ((Chain.start .btc 1 10).mine [daveGains]).mineEmpty 1

lemma selects_dave : PaymentRequest.Selects
    { id := Word.toBytes 9, blockNumber := .ofNat 1, inUtxo := .ofNat 2, utxo := .ofNat 0 }
    davesChain daveGains 1 ⟨some "dave", 7⟩ ⟨some "carol", 30⟩ where
  id := Hash.ofBytes?_toBytes 9
  found := rfl
  input := ⟨2, rfl, rfl⟩
  output := ⟨0, rfl, rfl⟩

theorem payment_exact_dave : ∃ p,
    expectedResponse davesChain (.payment .btc 9 1 2 0) = some (.pending (.payment p)) ∧
      daveGains.Counts "dave" ∧ daveGains.Counts "carol" ∧ p.spentAmount.toInt = -20 ∧
      p.receivedAmount.toInt = 30 ∧
      expectedResponse davesChain (.balanceDecreasing .btc 9 1 2) =
        some (.pending (.balanceDecreasing p.decrease)) := by
  obtain ⟨e, he⟩ : ∃ e, expectedResponse davesChain (.payment .btc 9 1 2 0) = some e := ⟨_, rfl⟩
  obtain ⟨p, t, i, o, rfl, hselects, hexact, hdecrease⟩ := payment_exact rfl he
  obtain ⟨rfl, -, rfl, rfl⟩ := hselects.unique selects_dave
  have hdave : daveGains.Counts "dave" := ⟨by decide, by decide⟩
  have hcarol : daveGains.Counts "carol" := ⟨by decide, by decide⟩
  exact ⟨p, he, hdave, hcarol, hexact.spent "dave" rfl hdave,
    hexact.received "carol" rfl rfl hcarol, hdecrease _ _ rfl rfl rfl rfl rfl⟩

end Validation

end Attestation
