import Mathlib
import Attestation.Proofs.Validation.Exact

/-!
One-to-one payments keep what they are worth between two addresses: what the source spends and the
receiver does not receive is the fee, and nobody else has a part in it (`oneToOne_conserves`).
-/

namespace Attestation

namespace Entry

variable {entries : List Entry} {a b : String}

@[simp] lemma worth_nil : worth [] = 0 :=
  rfl

@[simp] lemma worth_cons (x : Entry) (entries : List Entry) :
    worth (x :: entries) = x.value.toNat + worth entries := by
  rw [worth, List.map_cons, List.sum_cons, worth]

lemma held_cons_of_eq {x : Entry} (h : x.address = some a) :
    held (x :: entries) a = x.value.toNat + held entries a := by
  rw [held, List.filter_cons_of_pos, worth_cons, held]
  exact decide_eq_true h

lemma held_cons_of_ne {x : Entry} (h : x.address ≠ some a) :
    held (x :: entries) a = held entries a := by
  rw [held, List.filter_cons_of_neg, held]
  rw [decide_eq_true_iff]
  exact h

/-- Entries of two addresses are worth what each of the two holds. -/
lemma worth_eq_held_add_held (hne : a ≠ b)
    (h : ∀ x ∈ entries, x.address = some a ∨ x.address = some b) :
    worth entries = held entries a + held entries b := by
  induction entries with
  | nil => rfl
  | cons x entries ih =>
    rw [List.forall_mem_cons] at h
    obtain ⟨hx, h⟩ := h
    rw [worth_cons, ih h]
    rcases hx with hx | hx
    · have hb : x.address ≠ some b := fun hb => hne (Option.some.inj (hx.symm.trans hb))
      rw [held_cons_of_eq hx, held_cons_of_ne hb, Nat.add_assoc]
    · have ha : x.address ≠ some a := fun ha => hne (Option.some.inj (ha.symm.trans hx))
      rw [held_cons_of_eq hx, held_cons_of_ne ha, Nat.add_left_comm]

lemma held_eq_zero (h : ∀ x ∈ entries, x.address ≠ some a) : held entries a = 0 := by
  have hnone : entries.filter (·.address = some a) = [] := by
    simpa [List.filter_eq_nil_iff] using h
  rw [held, hnone, worth_nil]

end Entry

open Entry

namespace Transaction

variable {t : Transaction} {source receiver : String}

/-- The source pays everything, and what it does not get back goes to the receiver. -/
structure Between (t : Transaction) (source receiver : String) : Prop where
  inputs : ∀ x ∈ t.inputs, x.address = some source
  outputs : ∀ x ∈ t.outputs, x.address = some receiver ∨ x.address = some source

lemma isOneToOne_iff :
    t.isOneToOne (some source) (some receiver) = true ↔ t.Between source receiver := by
  simp only [isOneToOne, Bool.and_eq_true, List.all_eq_true, Bool.or_eq_true, beq_iff_eq]
  exact ⟨fun ⟨hin, hout⟩ => ⟨hin, hout⟩, fun h => ⟨h.inputs, h.outputs⟩⟩

namespace Between

variable (h : t.Between source receiver) (hne : source ≠ receiver)
include h hne

lemma held_inputs : held t.inputs receiver = 0 := by
  apply held_eq_zero
  intro x hx ha
  exact hne (Option.some.inj ((h.inputs x hx).symm.trans ha))

lemma worth_inputs : worth t.inputs = held t.inputs source := by
  rw [worth_eq_held_add_held hne fun x hx => .inl (h.inputs x hx), h.held_inputs hne, Nat.add_zero]

lemma worth_outputs : worth t.outputs = held t.outputs receiver + held t.outputs source :=
  worth_eq_held_add_held hne.symm h.outputs

lemma counts (hin : worth t.inputs < 2 ^ 127) (hout : worth t.outputs < 2 ^ 127) :
    t.Counts source ∧ t.Counts receiver := by
  rw [h.worth_inputs hne] at hin
  rw [h.worth_outputs hne] at hout
  refine ⟨⟨hin, ?_⟩, ⟨?_, ?_⟩⟩
  · exact (Nat.le_add_left _ _).trans_lt hout
  · rw [h.held_inputs hne]
    exact Nat.two_pow_pos 127
  · exact (Nat.le_add_right _ _).trans_lt hout

end Between

end Transaction

namespace Validation

variable {c : Chain} {r : PaymentRequest} {p : PaymentResponse} {t : Transaction} {i o : Entry}
  {request : Request} {source receiver : String}

lemma Evidence.conserves (h : Evidence c r p t (some source) (some receiver))
    (hs : t.status = .success) (hne : source ≠ receiver) (ht : t.Between source receiver)
    (hin : worth t.inputs < 2 ^ 127) (hout : worth t.outputs < 2 ^ 127) :
    p.spentAmount.toInt - p.receivedAmount.toInt = worth t.inputs - worth t.outputs := by
  obtain ⟨hsource, hreceiver⟩ := ht.counts hne hin hout
  rw [h.toInt_spent, h.toInt_received, hsource.spent_eq, hreceiver.received_eq hs,
    ht.held_inputs hne, ht.worth_inputs hne, ht.worth_outputs hne]
  push_cast
  ring

theorem oneToOne_conserves (hr : request.body = .payment r)
    (he : expectedResponse c request = some (.pending (.payment p))) (hs : p.status = 0)
    (hone : p.oneToOne = true) :
    ∃ t i o, r.Selects c t p.blockNumber i o ∧
      ∀ source receiver, i.address = some source → o.address = some receiver →
        source ≠ receiver → t.Between source receiver ∧
          (worth t.inputs < 2 ^ 127 → worth t.outputs < 2 ^ 127 →
            p.spentAmount.toInt - p.receivedAmount.toInt = worth t.inputs - worth t.outputs) := by
  obtain ⟨-, p', ⟨t, a, b, h⟩, he⟩ := (expectedResponse_payment_iff hr).mp he
  cases he
  obtain ⟨i, o, hselects, rfl, rfl⟩ := h.selects
  refine ⟨t, i, o, hselects, ?_⟩
  intro source receiver hsource hreceiver hne
  rw [hsource, hreceiver] at h
  have ht := Transaction.isOneToOne_iff.mp (h.oneToOne.trans hone)
  exact ⟨ht, h.conserves (status_of_code_eq_zero (h.status.trans hs)) hne ht⟩

/-- Dave pays Carol with two entries, gets change back and leaves a fee of 3. -/
def daveChanges : Transaction where
  hash := 9
  inputs := [⟨some "dave", 50⟩, ⟨some "dave", 7⟩]
  outputs := [⟨some "dave", 20⟩, ⟨some "carol", 30⟩, ⟨some "carol", 4⟩]
  reference := none
  status := .success

theorem oneToOne_conserves_dave : ∃ (c : Chain) (p : PaymentResponse),
    c.transaction? 9 = some (daveChanges, 1) ∧
      expectedResponse c (.payment .btc 9 1 0 1) = some (.pending (.payment p)) ∧ p.status = 0 ∧
      p.oneToOne = true ∧ daveChanges.Between "dave" "carol" ∧
      p.spentAmount.toInt - p.receivedAmount.toInt = 3 := by
  let c := (Chain.start .btc 0 10).mine [daveChanges]
  let p : PaymentResponse := {
    blockNumber := 1
    blockTimestamp := 1700000010
    transactionHash := 9
    inUtxo := 0
    utxo := 1
    sourceAddressHash := addressHash "dave"
    receivingAddressHash := addressHash "carol"
    spentAmount := 37
    receivedAmount := 34
    paymentReference := 0
    oneToOne := true
    status := 0 }
  have he : expectedResponse c (.payment .btc 9 1 0 1) = some (.pending (.payment p)) := rfl
  obtain ⟨t, i, o, hselects, hconserves⟩ := oneToOne_conserves rfl he rfl rfl
  have hdave : PaymentRequest.Selects ⟨Word.toBytes 9, .ofNat 1, .ofNat 0, .ofNat 1⟩ c daveChanges
      1 ⟨some "dave", 50⟩ ⟨some "carol", 30⟩ := {
    id := Hash.ofBytes?_toBytes 9
    found := rfl
    input := ⟨0, rfl, rfl⟩
    output := ⟨1, rfl, rfl⟩ }
  obtain ⟨rfl, -, rfl, rfl⟩ := hselects.unique hdave
  obtain ⟨hbetween, hfee⟩ := hconserves "dave" "carol" rfl rfl (by decide)
  exact ⟨c, p, rfl, he, rfl, rfl, hbetween, hfee (by decide) (by decide)⟩

end Validation

end Attestation
