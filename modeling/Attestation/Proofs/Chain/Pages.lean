import Mathlib
import Attestation.Proofs.Chain.Extension
import Attestation.Proofs.Validation.Window

/-!
The blocks of a chain stand in the order of their numbers. So the first block of a kind that a
search meets is the one with the least number, or with the greatest one if the search goes backwards
(`find?_eq_some_iff_of_pairwise`), and a hash is found exactly when some block lists it
(`transaction?_eq_none_iff`).
-/

namespace Attestation

/-- In a list that is in order, what is found first comes before all else that could be found. -/
lemma find?_eq_some_iff_of_pairwise {α : Type} {R : α → α → Prop} {l : List α} {f : α → Bool}
    {a : α} (asymm : ∀ a b, R a b → ¬ R b a) (h : l.Pairwise R) :
    l.find? f = some a ↔ a ∈ l ∧ f a = true ∧ ∀ b ∈ l, f b = true → ¬ R b a := by
  induction l with
  | nil => simp
  | cons x l ih =>
    obtain ⟨hx, hl⟩ := List.pairwise_cons.mp h
    cases hf : f x with
    | true =>
      rw [List.find?_cons_of_pos hf, Option.some_inj]
      constructor
      · rintro rfl
        refine ⟨List.mem_cons_self, hf, fun b hb _ hba => ?_⟩
        rcases List.mem_cons.mp hb with rfl | hb
        · exact asymm b b hba hba
        · exact asymm b x hba (hx b hb)
      · rintro ⟨ha, -, hfirst⟩
        rcases List.mem_cons.mp ha with rfl | ha
        · rfl
        · exact absurd (hx a ha) (hfirst x List.mem_cons_self hf)
    | false =>
      have hne : f x ≠ true := by rw [hf]; decide
      rw [List.find?_cons_of_neg hne, ih hl, List.forall_mem_cons, List.mem_cons]
      constructor
      · rintro ⟨ha, hfa, hfirst⟩
        exact ⟨.inr ha, hfa, fun hfx => absurd hfx hne, hfirst⟩
      · rintro ⟨rfl | ha, hfa, -, hfirst⟩
        · exact absurd hfa hne
        · exact ⟨ha, hfa, hfirst⟩

namespace Chain

variable {c : Chain} {p q : Page} {b : Block} {hash : Hash} {number : UInt64}

lemma getElem?_number (hp : p ∈ c.pages) : c.pages[p.number.toNat]? = some p := by
  obtain ⟨i, hi, rfl⟩ := List.getElem_of_mem hp
  rw [c.numbered i hi]
  exact List.getElem?_eq_getElem hi

lemma toNat_number_lt (hp : p ∈ c.pages) : p.number.toNat < c.pages.length :=
  (List.getElem?_eq_some_iff.mp (getElem?_number hp)).1

lemma eq_of_number_eq (hp : p ∈ c.pages) (hq : q ∈ c.pages) (h : p.number = q.number) : p = q := by
  have hp := getElem?_number hp
  rw [h, getElem?_number hq] at hp
  exact (Option.some.inj hp).symm

lemma block?_number (hp : p ∈ c.pages) : c.block? p.number = some p.block := by
  rw [block?, getElem?_number hp]
  rfl

lemma block?_eq_some_iff :
    c.block? number = some b ↔ ∃ p ∈ c.pages, p.number = number ∧ p.block = b := by
  constructor
  · intro h
    have hn := number_of_block? h
    obtain ⟨p, hp, rfl⟩ := Option.map_eq_some_iff.mp h
    exact ⟨p, List.mem_of_getElem? hp, hn, rfl⟩
  · rintro ⟨p, hp, rfl, rfl⟩
    exact block?_number hp

lemma pairwise_number (c : Chain) : c.pages.Pairwise (·.number < ·.number) := by
  rw [List.pairwise_iff_getElem]
  intro i j hi hj hij
  rwa [UInt64.lt_iff_toNat_lt, c.numbered i hi, c.numbered j hj]

lemma mem_drop_pages {k : ℕ} : p ∈ c.pages.drop k ↔ p ∈ c.pages ∧ k ≤ p.number.toNat := by
  rw [List.mem_drop_iff_getElem]
  constructor
  · rintro ⟨j, hj, rfl⟩
    rw [c.numbered]
    exact ⟨List.getElem_mem _, Nat.le_add_right k j⟩
  · rintro ⟨hp, hk⟩
    have hlt := toNat_number_lt hp
    obtain ⟨_, hget⟩ := List.getElem?_eq_some_iff.mp (getElem?_number hp)
    refine ⟨p.number.toNat - k, by omega, ?_⟩
    simpa only [Nat.add_sub_cancel' hk] using hget

lemma mem_take_pages {k : ℕ} : p ∈ c.pages.take k ↔ p ∈ c.pages ∧ p.number.toNat < k := by
  rw [List.mem_take_iff_getElem]
  constructor
  · rintro ⟨j, hj, rfl⟩
    rw [c.numbered]
    exact ⟨List.getElem_mem _, by omega⟩
  · rintro ⟨hp, hk⟩
    have hlt := toNat_number_lt hp
    obtain ⟨_, hget⟩ := List.getElem?_eq_some_iff.mp (getElem?_number hp)
    exact ⟨p.number.toNat, by omega, hget⟩

lemma transaction?_eq_none_iff : c.transaction? hash = none ↔ ¬ c.Lists hash := by
  rw [transaction?, List.findSome?_eq_none_iff]
  simp only [List.mem_reverse, Option.map_eq_none_iff, Page.transaction?, List.find?_eq_none,
    beq_iff_eq, Lists, not_exists, not_and]

lemma exists_transaction? (h : c.Lists hash) : ∃ t n, c.transaction? hash = some (t, n) := by
  cases hf : c.transaction? hash with
  | none => exact absurd h (transaction?_eq_none_iff.mp hf)
  | some x => exact ⟨x.1, x.2, rfl⟩

end Chain

end Attestation
