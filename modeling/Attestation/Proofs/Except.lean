import Mathlib

/-!
Chains of steps that may fail: a chain ends well exactly when each of its steps does
(`bind_eq_ok_iff`, `mapM_eq_ok_iff`), and fails with the first step that fails (`bind_eq_error_iff`,
`mapM_eq_error_iff`).
-/

namespace Attestation.Except

variable {ε α β : Type}

@[simp] lemma ok_bind (a : α) (f : α → Except ε β) : (Except.ok a >>= f) = f a :=
  rfl

@[simp] lemma error_bind (e : ε) (f : α → Except ε β) : (Except.error e >>= f) = .error e :=
  rfl

lemma bind_eq_ok_iff {x : Except ε α} {f : α → Except ε β} {b : β} :
    (x >>= f) = .ok b ↔ ∃ a, x = .ok a ∧ f a = .ok b := by
  cases x <;> simp

lemma bind_eq_error_iff {x : Except ε α} {f : α → Except ε β} {e : ε} :
    (x >>= f) = .error e ↔ x = .error e ∨ ∃ a, x = .ok a ∧ f a = .error e := by
  cases x <;> simp

lemma exists_first_cons_iff {P Q : α → Prop} {x : α} {xs : List α} :
    (∃ earlier y later, x :: xs = earlier ++ y :: later ∧ (∀ z ∈ earlier, P z) ∧ Q y) ↔
      Q x ∨ P x ∧ ∃ earlier y later, xs = earlier ++ y :: later ∧ (∀ z ∈ earlier, P z) ∧ Q y := by
  constructor
  · rintro ⟨earlier, y, later, heq, hP, hQ⟩
    cases earlier with
    | nil =>
      cases heq
      exact .inl hQ
    | cons z earlier =>
      cases heq
      rw [List.forall_mem_cons] at hP
      exact .inr ⟨hP.1, earlier, y, later, rfl, hP.2, hQ⟩
  · rintro (hQ | ⟨hP, earlier, y, later, rfl, hearlier, hQ⟩)
    · exact ⟨[], x, xs, rfl, List.forall_mem_nil P, hQ⟩
    · exact ⟨x :: earlier, y, later, rfl, List.forall_mem_cons.mpr ⟨hP, hearlier⟩, hQ⟩

lemma mapM_eq_ok_iff {f : α → Except ε β} {as : List α} {bs : List β} :
    as.mapM f = .ok bs ↔ List.Forall₂ (fun a b => f a = .ok b) as bs := by
  induction as generalizing bs with
  | nil => simp [pure, Except.pure, eq_comm]
  | cons a as ih =>
    simp only [List.mapM_cons, bind_eq_ok_iff, ih, List.forall₂_cons_left_iff, pure, Except.pure,
      Except.ok.injEq]
    constructor
    · rintro ⟨b, hb, bs, hbs, rfl⟩
      exact ⟨b, bs, hb, hbs, rfl⟩
    · rintro ⟨b, bs, hb, hbs, rfl⟩
      exact ⟨b, hb, bs, hbs, rfl⟩

lemma mapM_eq_error_iff {f : α → Except ε β} {as : List α} {e : ε} :
    as.mapM f = .error e ↔ ∃ earlier a later, as = earlier ++ a :: later ∧
      (∀ x ∈ earlier, ∃ b, f x = .ok b) ∧ f a = .error e := by
  induction as with
  | nil => simp [pure, Except.pure]
  | cons a as ih =>
    rw [List.mapM_cons, bind_eq_error_iff, exists_first_cons_iff, ← ih]
    refine or_congr_right ?_
    simp only [bind_eq_error_iff, pure, Except.pure, reduceCtorEq, and_false, exists_false,
      or_false, exists_and_right]

lemma toOption_eq_some_iff {x : Except ε α} {a : α} : x.toOption = some a ↔ x = .ok a := by
  cases x <;> simp [Except.toOption]

end Attestation.Except
