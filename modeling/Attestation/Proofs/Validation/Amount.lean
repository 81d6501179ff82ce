import Mathlib
import Attestation.Validation

/-!
What a transaction pays to addresses of a kind, exactly and as the validator counts it. Both agree
as far as the sums stay within the limit; above it the validator counts less.
-/

namespace Attestation

namespace Entry

variable {entries : List Entry} {f g : String → Bool}

lemma total_congr (h : ∀ e ∈ entries, ∀ a, e.address = some a → f a = g a) :
    total entries f = total entries g := by
  rw [total, total]
  congr 1
  refine List.filter_congr fun e he => ?_
  cases ha : e.address with
  | none => rfl
  | some a => exact h e he a ha

lemma total_singleton (a : String) (v : BitVec 128) :
    total [⟨some a, v⟩] f = if f a then v.toNat else 0 := by
  cases h : f a <;> simp [total, h]

end Entry

def hashesTo (destination : Hash) (address : String) : Bool :=
  addressHash address == destination

namespace Transaction

variable {t : Transaction} {f g : String → Bool} {reference destination : Hash} {amount : ℕ}

def addresses (t : Transaction) : List String :=
  (t.inputs ++ t.outputs).filterMap (·.address)

/-- What the outputs give to addresses of a kind less what the inputs take from them. -/
def paid (t : Transaction) (belongs : String → Bool) : ℤ :=
  Entry.total t.outputs belongs - Entry.total t.inputs belongs

lemma balanceChange_congr (h : ∀ a ∈ t.addresses, f a = g a) :
    t.balanceChange f = t.balanceChange g := by
  have hin : ∀ e ∈ t.inputs ++ t.outputs, ∀ a, e.address = some a → f a = g a :=
    fun e he a ha => h a (List.mem_filterMap.mpr ⟨e, he, ha⟩)
  rw [balanceChange, balanceChange,
    Entry.total_congr fun e he => hin e (List.mem_append_left _ he),
    Entry.total_congr fun e he => hin e (List.mem_append_right _ he)]

lemma abs_balanceChange_le (t : Transaction) (f : String → Bool) :
    |t.balanceChange f| ≤ Entry.amountLimit := by
  rw [balanceChange, abs_le]
  omega

lemma balanceChange_eq_paid (hin : Entry.total t.inputs f ≤ Entry.amountLimit)
    (hout : Entry.total t.outputs f ≤ Entry.amountLimit) : t.balanceChange f = t.paid f := by
  rw [balanceChange, paid, Nat.min_eq_left hin, Nat.min_eq_left hout]

/-- Within the limit nothing that is paid goes unseen. -/
lemma paid_lt_of_balanceChange_lt
    (hl : min (amount + Entry.total t.inputs f) (Entry.total t.outputs f) ≤ Entry.amountLimit)
    (h : t.balanceChange f < amount) : t.paid f < amount := by
  rw [balanceChange] at h
  rw [paid]
  omega

lemma pays_iff : t.pays reference destination amount = true ↔ t.status = .success ∧
    t.reference = some reference ∧
      (amount : ℤ) ≤ t.balanceChange (hashesTo destination) := by
  rw [pays, Bool.and_eq_true, Bool.and_eq_true, beq_iff_eq, beq_iff_eq, decide_eq_true_iff,
    and_assoc]
  rfl

/-- No transaction counts as paying more than the limit. -/
lemma pays_eq_false_of_lt (h : Entry.amountLimit < amount) :
    t.pays reference destination amount = false := by
  rw [Bool.eq_false_iff, Ne, pays_iff]
  rintro ⟨-, -, hp⟩
  have := (abs_le.mp (abs_balanceChange_le t (hashesTo destination))).2
  omega

end Transaction

end Attestation
