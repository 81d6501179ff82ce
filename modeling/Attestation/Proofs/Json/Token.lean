import Mathlib
import Attestation.Json.Printer
import Attestation.Json.Reader

/-!
Texts and numbers are read off the front of a text as they are written: a text up to the closing
quote (`text_quoted`), the digits of a number up to what may stand behind a value
(`number_toDigits`).
-/

namespace Attestation.Json.Reader

lemma hex4?_of_lt {n : Nat} (h : n < 0x20) :
    hex4? '0' '0' (Hex.digit (n / 16)) (Hex.digit (n % 16)) = some n ∧
      isLowSurrogate n = false ∧ isHighSurrogate n = false := by
  revert n
  decide

lemma text_escape (acc : List Char) (c : Char) (r : List Char) :
    text acc (Printer.escape c ++ r) = text (c :: acc) r := by
  unfold Printer.escape
  -- the seven characters that are escaped by one character, the control characters, all others
  split
  · rfl
  · rfl
  · rfl
  · rfl
  · rfl
  · rfl
  · rfl
  · split
    · next hc =>
      obtain ⟨hhex, hlow, hhigh⟩ := hex4?_of_lt hc
      have hn : (UInt8.ofNat c.toNat).toNat = c.toNat := by
        rw [UInt8.toNat_ofNat']
        omega
      simp only [Hex.ofByte, hn, List.cons_append, List.nil_append, text, hhex, hlow, hhigh]
      simp [Char.ofNat_toNat]
    · rw [List.singleton_append, text.eq_def]
      split <;> simp_all

lemma text_quoted (acc cs r : List Char) :
    text acc (cs.flatMap Printer.escape ++ '"' :: r) =
      some (String.ofList (acc.reverse ++ cs), r) := by
  induction cs generalizing acc with
  | nil => simp [text]
  | cons c cs ih =>
    rw [List.flatMap_cons, List.append_assoc, text_escape, ih]
    simp

lemma natural_toDigits (n : Nat) : natural (Nat.toDigits 10 n) = n :=
  Nat.ofDigitChars_ten_toDigits

lemma head?_toDigits {n : Nat} (hn : 0 < n) : (Nat.toDigits 10 n).head? ≠ some '0' := by
  induction n using Nat.strong_induction_on with
  | _ n ih =>
    rw [Nat.toDigits_eq_if (by decide)]
    split
    · next hlt =>
      have h : ∀ n < 10, 0 < n → [n.digitChar].head? ≠ some '0' := by decide
      exact h n hlt hn
    · next hge =>
      rw [List.head?_append_of_ne_nil _ Nat.toDigits_ne_nil]
      exact ih (n / 10) (by omega) (by omega)

/-- What may stand behind a value. -/
inductive Delimited : List Char → Prop
  | ending : Delimited []
  | comma (r : List Char) : Delimited (',' :: r)
  | bracket (r : List Char) : Delimited (']' :: r)
  | brace (r : List Char) : Delimited ('\x7d' :: r)

variable {rest : List Char}

lemma number_toDigits (negative : Bool) (n : Nat) (hr : Delimited rest) :
    number negative (Nat.toDigits 10 n ++ rest) = some (.whole negative n, rest) := by
  have hdigits : ∀ c ∈ Nat.toDigits 10 n, isDigit c = true := fun c hc =>
    Nat.isDigit_of_mem_toDigits (by decide) le_rfl hc
  have htake : (Nat.toDigits 10 n ++ rest).takeWhile isDigit = Nat.toDigits 10 n := by
    rw [List.takeWhile_append_of_pos hdigits]
    cases hr <;> simp [isDigit]
  have hdrop : (Nat.toDigits 10 n ++ rest).dropWhile isDigit = rest := by
    rw [List.dropWhile_append_of_pos hdigits]
    cases hr <;> simp [isDigit]
  have hzero : ¬ ((Nat.toDigits 10 n).isEmpty ||
      ((Nat.toDigits 10 n).length > 1 && (Nat.toDigits 10 n).head? == some '0')) = true := by
    cases n with
    | zero => decide
    | succ n => simp [Nat.toDigits_ne_nil, head?_toDigits (Nat.succ_pos n)]
  have hfraction : fraction rest = some (none, rest) := by
    cases hr <;> rfl
  have hexponent : exponent rest = some (none, rest) := by
    cases hr <;> rfl
  rw [number, htake, hdrop, natural_toDigits]
  simp only [if_neg hzero, hfraction, Option.bind_eq_bind, Option.bind_some, hexponent]
  rfl

end Attestation.Json.Reader
