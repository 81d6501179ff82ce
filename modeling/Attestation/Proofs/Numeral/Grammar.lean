import Mathlib
import Attestation.Bytes.Lemmas
import Attestation.Numeral

/-!
The grammar of numbers in text. A text is a number of minus signs with white space around each, and
behind them digits (`Signed`, `Literal`); its value is that of the digits, and only zero has one
behind a minus sign (`Signed.textValue_eq`). Main statement: what a text resolves to, for every text
(`text_resolves`).
-/

namespace Attestation

namespace Text

/-- A text without the white space at its two ends. -/
structure Trimmed (cs bare : List Char) : Prop where
  between : ∃ front back, cs = front ++ bare ++ back ∧ (∀ c ∈ front, isBlank c = true) ∧
    ∀ c ∈ back, isBlank c = true
  head : ∀ c ∈ bare.head?, isBlank c = false
  last : ∀ c ∈ bare.getLast?, isBlank c = false

variable {cs bare front back : List Char}

lemma dropWhile_of_head (h : ∀ c ∈ cs.head?, isBlank c = false) : cs.dropWhile isBlank = cs := by
  cases cs with
  | nil => rfl
  | cons c cs => rw [List.dropWhile_cons_of_neg (by simpa using h)]

lemma head_dropWhile (cs : List Char) : ∀ c ∈ (cs.dropWhile isBlank).head?, isBlank c = false := by
  intro c hc
  have h := List.head?_dropWhile_not isBlank cs
  rw [hc] at h
  exact h

lemma dropEnd_of_last (h : ∀ c ∈ cs.getLast?, isBlank c = false) : dropEnd isBlank cs = cs := by
  rw [← List.head?_reverse] at h
  rw [dropEnd, dropWhile_of_head h, List.reverse_reverse]

lemma dropEnd_append (hback : ∀ c ∈ back, isBlank c = true) :
    dropEnd isBlank (cs ++ back) = dropEnd isBlank cs := by
  have hreverse : ∀ c ∈ back.reverse, isBlank c = true :=
    fun c hc => hback c (List.mem_reverse.mp hc)
  rw [dropEnd, List.reverse_append, List.dropWhile_append_of_pos hreverse, dropEnd]

lemma exists_dropEnd (cs : List Char) :
    ∃ back, cs = dropEnd isBlank cs ++ back ∧ ∀ c ∈ back, isBlank c = true := by
  refine ⟨(cs.reverse.takeWhile isBlank).reverse, ?_, ?_⟩
  · rw [dropEnd, ← List.reverse_append, List.takeWhile_append_dropWhile, List.reverse_reverse]
  · intro c hc
    exact List.mem_takeWhile_imp (List.mem_reverse.mp hc)

lemma trimmed_trim (cs : List Char) : Trimmed cs (trim cs) := by
  obtain ⟨back, hd, hback⟩ := exists_dropEnd (cs.dropWhile isBlank)
  refine ⟨⟨cs.takeWhile isBlank, back, ?_, fun c hc => List.mem_takeWhile_imp hc, hback⟩, ?_, ?_⟩
  · rw [List.append_assoc, trim, ← hd, List.takeWhile_append_dropWhile]
  · intro c hc
    apply head_dropWhile cs
    rw [hd]
    exact List.mem_head?_append_of_mem_head? hc
  · intro c hc
    rw [trim, dropEnd, List.getLast?_reverse] at hc
    exact head_dropWhile _ c hc

lemma trim_eq_iff : trim cs = bare ↔ Trimmed cs bare := by
  constructor
  · rintro rfl
    exact trimmed_trim cs
  · rintro ⟨⟨front, back, rfl, hfront, hback⟩, hhead, hlast⟩
    rw [trim, List.append_assoc, List.dropWhile_append_of_pos hfront]
    cases bare with
    | nil =>
      have hnil : back.dropWhile isBlank = [] := List.dropWhile_eq_nil_iff.mpr hback
      rw [List.nil_append, hnil]
      rfl
    | cons c bare =>
      have hdrop : (c :: bare ++ back).dropWhile isBlank = c :: bare ++ back :=
        dropWhile_of_head hhead
      rw [hdrop, dropEnd_append hback, dropEnd_of_last hlast]

lemma Trimmed.length_le (h : Trimmed cs bare) : bare.length ≤ cs.length := by
  rw [← trim_eq_iff.mpr h]
  exact length_trim_le cs

end Text

namespace Numeral

open Text

/-- ASCII digits with what they stand for. -/
def IsDigit (c : Char) (d : ℕ) : Prop :=
  d < 16 ∧ (c = d.digitChar ∨ c = d.digitChar.toUpper)

instance (c : Char) (d : ℕ) : Decidable (IsDigit c d) :=
  inferInstanceAs (Decidable (_ ∧ _))

/-- Digits of a base with their value, first the most significant. An underscore stands for
nothing. -/
inductive Digits (base : ℕ) : List Char → ℕ → Prop
  | nil : Digits base [] 0
  | underscore {cs : List Char} {n : ℕ} (h : Digits base cs n) : Digits base (cs ++ ['_']) n
  | digit {cs : List Char} {n : ℕ} {c : Char} {d : ℕ} (h : Digits base cs n) (hc : IsDigit c d)
    (hd : d < base) : Digits base (cs ++ [c]) (base * n + d)

/-- Numbers without a sign. -/
inductive Literal : List Char → ℕ → Prop
  | decimal {ds : List Char} {n : ℕ} (hne : ds ≠ []) (h : Digits 10 ds n) : Literal ds n
  | hexadecimal {x : Char} {ds : List Char} {n : ℕ} (hx : x = 'x' ∨ x = 'X') (hne : ds ≠ [])
    (h : Digits 16 ds n) : Literal ('0' :: x :: ds) n

/-- A text that begins with so many minus signs, what is behind the last of them, and the same
without white space at its ends. -/
inductive Signed : List Char → ℕ → List Char → List Char → Prop
  | bare {cs bare : List Char} (h : Trimmed cs bare) (hne : bare.head? ≠ some '-') :
    Signed cs 0 cs bare
  | minus {cs rest whole bare : List Char} {k : ℕ} (h : Trimmed cs ('-' :: rest))
    (hrest : Signed rest k whole bare) : Signed cs (k + 1) whole bare

variable {base d n k : ℕ} {c : Char} {cs ds rest whole bare : List Char}

lemma value?_of_isDigit (h : IsDigit c d) : Hex.value? c = some d := by
  have hall : ∀ d < 16, Hex.value? d.digitChar = some d ∧
      Hex.value? d.digitChar.toUpper = some d := by decide
  obtain ⟨hd, rfl | rfl⟩ := h
  · exact (hall d hd).1
  · exact (hall d hd).2

lemma isDigit_of_value? (h : Hex.value? c = some d) : IsDigit c d := by
  have hall : ∀ n ≤ 'f'.toNat, ∀ d ∈ Hex.value? (Char.ofNat n), IsDigit (Char.ofNat n) d := by
    decide
  -- No character above the last letter has a value.
  have hc : c.toNat ≤ 'f'.toNat := by
    by_contra hlt
    have hgt (x : Char) (hx : x ≤ 'f') : ¬ c ≤ x := fun hcx => hlt (hcx.trans hx)
    have hnone : Hex.value? c = none := by
      rw [Hex.value?, if_neg, if_neg, if_neg]
      · exact fun hc => hgt 'F' (by decide) hc.2
      · exact fun hc => hgt 'f' (by decide) hc.2
      · exact fun hc => hgt '9' (by decide) hc.2
    rw [hnone] at h
    cases h
  have hd := hall c.toNat hc d
  rw [Char.ofNat_toNat] at hd
  exact hd h

lemma digit?_eq_some_iff : digit? base c = some d ↔ IsDigit c d ∧ d < base := by
  rw [digit?, Option.filter_eq_some_iff, decide_eq_true_iff]
  exact and_congr_left fun _ => ⟨isDigit_of_value?, value?_of_isDigit⟩

lemma not_isDigit (h : Hex.value? c = none) : ¬ IsDigit c d := by
  intro hd
  rw [value?_of_isDigit hd] at h
  cases h

lemma isBlank_of_isDigit (h : IsDigit c d) : isBlank c = false := by
  have hall : ∀ d < 16, isBlank d.digitChar = false ∧ isBlank d.digitChar.toUpper = false := by
    decide
  obtain ⟨hd, rfl | rfl⟩ := h
  · exact (hall d hd).1
  · exact (hall d hd).2

lemma digits?_append_singleton (base : ℕ) (cs : List Char) (c : Char) :
    digits? base (cs ++ [c]) = (digits? base cs).bind fun n =>
      if c = '_' then some n else (digit? base c).map (base * n + ·) := by
  simp only [digits?, List.foldlM_append, List.foldlM_cons, List.foldlM_nil, bind_pure]
  rfl

lemma digits?_eq_some_iff : digits? base cs = some n ↔ Digits base cs n := by
  constructor
  · intro h
    induction cs using List.reverseRecOn generalizing n with
    | nil =>
      cases h
      exact .nil
    | append_singleton cs c ih =>
      rw [digits?_append_singleton] at h
      obtain ⟨m, hm, h⟩ := Option.bind_eq_some_iff.mp h
      split at h
      · next hc =>
        cases h
        exact hc ▸ .underscore (ih hm)
      · obtain ⟨d, hd, rfl⟩ := Option.map_eq_some_iff.mp h
        obtain ⟨hc, hd⟩ := digit?_eq_some_iff.mp hd
        exact .digit (ih hm) hc hd
  · intro h
    induction h with
    | nil => rfl
    | underscore h ih => rw [digits?_append_singleton, ih, Option.bind_some, if_pos rfl]
    | @digit cs n c d h hc hd ih =>
      have hne : c ≠ '_' := fun heq => not_isDigit rfl (heq ▸ hc)
      rw [digits?_append_singleton, ih, Option.bind_some, if_neg hne,
        digit?_eq_some_iff.mpr ⟨hc, hd⟩, Option.map_some]

lemma Digits.of_mem (h : Digits base cs n) (hc : c ∈ cs) :
    c = '_' ∨ ∃ d, IsDigit c d ∧ d < base := by
  induction h with
  | nil => cases hc
  | underscore h ih =>
    rcases List.mem_append.mp hc with hc | hc
    · exact ih hc
    · exact .inl (List.mem_singleton.mp hc)
  | digit h hd hlt ih =>
    rcases List.mem_append.mp hc with hc | hc
    · exact ih hc
    · exact .inr ⟨_, List.mem_singleton.mp hc ▸ hd, hlt⟩

lemma radix_hexadecimal {x : Char} (hx : x = 'x' ∨ x = 'X') :
    radix ('0' :: x :: ds) = (16, ds) := by
  rcases hx with rfl | rfl <;> rfl

lemma radix_decimal (h : ∀ x ds, cs = '0' :: x :: ds → ¬ (x = 'x' ∨ x = 'X')) :
    radix cs = (10, cs) := by
  unfold radix
  split
  · exact absurd (.inl rfl) (h _ _ rfl)
  · exact absurd (.inr rfl) (h _ _ rfl)
  · rfl

/-- The number that a text without a sign is read as. -/
def literal? (cs : List Char) : Option ℕ :=
  if (radix cs).2.isEmpty then none else digits? (radix cs).1 (radix cs).2

lemma literal?_of_radix (h : radix cs = (base, ds)) :
    literal? cs = some n ↔ ds ≠ [] ∧ Digits base ds n := by
  rw [literal?, h, ← digits?_eq_some_iff, ← List.isEmpty_eq_false_iff]
  cases ds.isEmpty <;> simp

lemma literal?_eq_some_iff : literal? cs = some n ↔ Literal cs n := by
  by_cases h : ∃ x ds, cs = '0' :: x :: ds ∧ (x = 'x' ∨ x = 'X')
  · obtain ⟨x, ds, rfl, hx⟩ := h
    rw [literal?_of_radix (radix_hexadecimal hx)]
    constructor
    · rintro ⟨hne, hd⟩
      exact .hexadecimal hx hne hd
    · intro hl
      cases hl with
      | hexadecimal hx hne hd => exact ⟨hne, hd⟩
      | decimal hne hd =>
        -- The letter behind the zero is no decimal digit.
        rcases hd.of_mem (List.mem_cons_of_mem _ List.mem_cons_self) with rfl | ⟨d, hd, -⟩
        · rcases hx with hx | hx <;> cases hx
        · rcases hx with rfl | rfl <;> exact absurd hd (not_isDigit rfl)
  · have hradix : radix cs = (10, cs) :=
      radix_decimal fun x ds hcs hx => h ⟨x, ds, hcs, hx⟩
    rw [literal?_of_radix hradix]
    constructor
    · rintro ⟨hne, hd⟩
      exact .decimal hne hd
    · intro hl
      cases hl with
      | decimal hne hd => exact ⟨hne, hd⟩
      | hexadecimal hx hne hd => exact absurd ⟨_, _, rfl, hx⟩ h

lemma magnitude_of_literal (h : Literal cs n) (hn : n < 2 ^ 256) (whole : List Char) :
    magnitude whole cs = .ok (BitVec.ofNat 256 n) := by
  have hl : literal? cs = some n := literal?_eq_some_iff.mpr h
  rw [literal?] at hl
  simp only [magnitude, hl]
  exact if_pos hn

lemma magnitude_of_no_literal (h : ∀ n < 2 ^ 256, ¬ Literal cs n) (whole : List Char) :
    magnitude whole cs = .error (.unreadable (String.ofList whole)) := by
  simp only [← literal?_eq_some_iff, literal?] at h
  simp only [magnitude]
  split
  · next n hn => exact if_neg fun hlt => h n hlt hn
  · rfl

section Sign

/-- The value behind one more minus sign. -/
def negated : Except Trouble Word → Except Trouble Word
  | .ok 0 => .ok 0
  | .ok _ => .error .negative
  | .error e => .error e

lemma textValue_of_minus (h : Trimmed cs ('-' :: rest)) :
    textValue cs = negated (textValue rest) := by
  have htrim := trim_eq_iff.mpr h
  rw [textValue]
  split
  · next rest' htrim' =>
    cases htrim.symm.trans htrim'
    rfl
  · next hne => exact absurd htrim (hne rest)

lemma textValue_of_bare (h : Trimmed cs bare) (hne : bare.head? ≠ some '-') :
    textValue cs = magnitude cs bare := by
  have htrim := trim_eq_iff.mpr h
  rw [textValue]
  split
  · next rest htrim' =>
    rw [htrim.symm.trans htrim'] at hne
    exact absurd rfl hne
  · rw [htrim]

lemma exists_signed (cs : List Char) : ∃ k whole bare, Signed cs k whole bare := by
  induction hl : cs.length using Nat.strong_induction_on generalizing cs with
  | _ l ih =>
    by_cases h : (trim cs).head? = some '-'
    · obtain ⟨rest, hrest⟩ := List.head?_eq_some_iff.mp h
      have htrim := trim_eq_iff.mp hrest
      have hlt : rest.length < l := hl ▸ htrim.length_le
      obtain ⟨k, whole, bare, hs⟩ := ih rest.length hlt rest rfl
      exact ⟨k + 1, whole, bare, .minus htrim hs⟩
    · exact ⟨0, cs, trim cs, .bare (trimmed_trim cs) h⟩

namespace Signed

lemma unique {k' : ℕ} {whole' bare' : List Char} (h : Signed cs k whole bare)
    (h' : Signed cs k' whole' bare') : k' = k ∧ whole' = whole ∧ bare' = bare := by
  induction h generalizing k' with
  | bare h hne =>
    cases h' with
    | bare h' hne' => exact ⟨rfl, rfl, (trim_eq_iff.mpr h').symm.trans (trim_eq_iff.mpr h)⟩
    | minus h' hrest' =>
      rw [← trim_eq_iff.mpr h, trim_eq_iff.mpr h'] at hne
      exact absurd rfl hne
  | minus h hrest ih =>
    cases h' with
    | bare h' hne' =>
      rw [← trim_eq_iff.mpr h', trim_eq_iff.mpr h] at hne'
      exact absurd rfl hne'
    | minus h' hrest' =>
      cases (trim_eq_iff.mpr h).symm.trans (trim_eq_iff.mpr h')
      obtain ⟨rfl, rfl, rfl⟩ := ih hrest'
      exact ⟨rfl, rfl, rfl⟩

lemma trimmed (h : Signed cs k whole bare) : Trimmed whole bare := by
  induction h with
  | bare h hne => exact h
  | minus h hrest ih => exact ih

lemma length_le (h : Signed cs k whole bare) : k + whole.length ≤ cs.length := by
  induction h with
  | bare h hne => exact (Nat.zero_add _).le
  | minus h hrest ih =>
    have hl := h.length_le
    rw [List.length_cons] at hl
    omega

lemma textValue_eq (h : Signed cs k whole bare) :
    textValue cs = negated^[k] (magnitude whole bare) := by
  induction h with
  | bare h hne => exact textValue_of_bare h hne
  | minus h hrest ih => rw [textValue_of_minus h, ih, Function.iterate_succ_apply']

end Signed

lemma negated_of_ne_zero {w : Word} (h : w ≠ 0) : negated (.ok w) = .error .negative := by
  unfold negated
  split
  · next heq =>
    cases heq
    exact absurd rfl h
  · rfl
  · next heq => cases heq

lemma negated_iterate_error (k : ℕ) (e : Trouble) : negated^[k] (.error e) = .error e :=
  Function.iterate_fixed rfl k

lemma negated_iterate_ok (k : ℕ) (w : Word) :
    negated^[k] (.ok w) = if k = 0 ∨ w = 0 then .ok w else .error .negative := by
  by_cases hw : w = 0
  · rw [if_pos (.inr hw), hw]
    exact Function.iterate_fixed rfl k
  · cases k with
    | zero => rw [if_pos (.inl rfl), Function.iterate_zero_apply]
    | succ k =>
      have hne : ¬ (k + 1 = 0 ∨ w = 0) := not_or.mpr ⟨Nat.succ_ne_zero k, hw⟩
      rw [if_neg hne, Function.iterate_succ_apply, negated_of_ne_zero hw, negated_iterate_error]

end Sign

section Value

variable {key : String}

lemma ofNat_eq_zero_iff (hn : n < 2 ^ 256) : BitVec.ofNat 256 n = 0 ↔ n = 0 := by
  rw [← BitVec.toNat_inj, BitVec.toNat_ofNat, Nat.mod_eq_of_lt hn]
  rfl

lemma resolve_of_literal {s : String} (h : Signed s.toList k whole bare) (hl : Literal bare n)
    (hn : n < 2 ^ 256) : (text s).resolve key =
      if k = 0 ∨ n = 0 then .ok (BitVec.ofNat 256 n) else .error (.negativeValue key) := by
  have hvalue : (text s).value = negated^[k] (.ok (BitVec.ofNat 256 n)) := by
    rw [value, h.textValue_eq, magnitude_of_literal hl hn]
  rw [resolve, hvalue, negated_iterate_ok]
  simp only [ofNat_eq_zero_iff hn]
  split <;> rfl

lemma resolve_of_no_literal {s : String} (h : Signed s.toList k whole bare)
    (hl : ∀ n < 2 ^ 256, ¬ Literal bare n) :
    (text s).resolve key = .error (.invalidNumber (String.ofList whole)) := by
  have hvalue : (text s).value = .error (.unreadable (String.ofList whole)) := by
    rw [value, h.textValue_eq, magnitude_of_no_literal hl, negated_iterate_error]
  rw [resolve, hvalue]
  rfl

/-- A number in digits, with white space around. -/
def Spells (s : String) (n : ℕ) : Prop :=
  ∃ front ds back, s.toList = front ++ ds ++ back ∧ (∀ c ∈ front, isBlank c = true) ∧
    (∀ c ∈ back, isBlank c = true) ∧ Literal ds n

lemma Digits.not_blank (h : Digits base cs n) (hc : c ∈ cs) : isBlank c = false ∧ c ≠ '-' := by
  rcases h.of_mem hc with rfl | ⟨d, hd, -⟩
  · decide
  · refine ⟨isBlank_of_isDigit hd, ?_⟩
    rintro rfl
    exact not_isDigit rfl hd

lemma Literal.not_blank (h : Literal cs n) (hc : c ∈ cs) : isBlank c = false ∧ c ≠ '-' := by
  cases h with
  | decimal hne h => exact h.not_blank hc
  | hexadecimal hx hne h =>
    rcases List.mem_cons.mp hc with rfl | hc
    · decide
    · rcases List.mem_cons.mp hc with rfl | hc
      · rcases hx with rfl | rfl <;> decide
      · exact h.not_blank hc

lemma Spells.exists_signed {s : String} (h : Spells s n) :
    ∃ bare, Signed s.toList 0 s.toList bare ∧ Literal bare n := by
  obtain ⟨front, ds, back, hs, hfront, hback, hl⟩ := h
  refine ⟨ds, .bare ⟨⟨front, back, hs, hfront, hback⟩, ?_, ?_⟩ ?_, hl⟩
  · intro c hc
    exact (hl.not_blank (List.mem_of_mem_head? hc)).1
  · intro c hc
    exact (hl.not_blank (List.mem_of_getLast? hc)).1
  · intro hc
    exact (hl.not_blank (List.mem_of_mem_head? hc)).2 rfl

lemma Spells.value_eq {s : String} (h : Spells s n) (hn : n < 2 ^ 256) :
    (text s).value = .ok (BitVec.ofNat 256 n) := by
  obtain ⟨bare, hs, hl⟩ := h.exists_signed
  rw [value, hs.textValue_eq, Function.iterate_zero_apply, magnitude_of_literal hl hn]

lemma Spells.resolve_eq {s : String} (h : Spells s n) (hn : n < 2 ^ 256) (key : String) :
    (text s).resolve key = .ok (BitVec.ofNat 256 n) := by
  rw [resolve, h.value_eq hn]
  rfl

lemma beq_of_value {a b : Numeral} {w : Word} (ha : a.value = .ok w) (hb : b.value = .ok w) :
    (a == b) = true := by
  change same a b = true
  rw [same, ha, hb]
  exact beq_self_eq_true w

lemma resolve64_of_resolve {a : Numeral} (h : a.resolve key = .ok (BitVec.ofNat 256 n))
    (hn : n < 2 ^ 256) : a.resolve64 key = if n < 2 ^ 64 then .ok (UInt64.ofNat n)
      else .error (.fieldTooLong key 8 (Bytes.needed n)) := by
  have hw : (BitVec.ofNat 256 n).toNat = n := by
    rw [BitVec.toNat_ofNat, Nat.mod_eq_of_lt hn]
  rw [resolve64, h]
  change (if (BitVec.ofNat 256 n).toNat < UInt64.size then _ else _) = _
  rw [hw]
  rfl

/-- What a text resolves to. Behind its minus signs and without white space it is a number below
`2 ^ 256` or not; a number spelled without a sign is that number in each of its uses. -/
theorem text_resolves (s key : String) :
    (∃ k whole bare,
      (∀ k' whole' bare', Signed s.toList k' whole' bare' ↔
        k' = k ∧ whole' = whole ∧ bare' = bare) ∧
      Trimmed whole bare ∧ k + whole.length ≤ s.toList.length ∧
      (∀ n < 2 ^ 256, Literal bare n → (text s).resolve key =
        if k = 0 ∨ n = 0 then .ok (BitVec.ofNat 256 n) else .error (.negativeValue key)) ∧
      ((∀ n < 2 ^ 256, ¬ Literal bare n) →
        (text s).resolve key = .error (.invalidNumber (String.ofList whole)))) ∧
    ∀ n < 2 ^ 256, Spells s n →
      (text s == unsigned (BitVec.ofNat 256 n)) = true ∧
      (unsigned (BitVec.ofNat 256 n) == text s) = true ∧
      ∃ least, (∀ width, least ≤ width ↔ n < 256 ^ width) ∧ (text s).resolve64 key =
        if n < 2 ^ 64 then .ok (UInt64.ofNat n) else .error (.fieldTooLong key 8 least) := by
  constructor
  · obtain ⟨k, whole, bare, hs⟩ := exists_signed s.toList
    refine ⟨k, whole, bare, ?_, hs.trimmed, hs.length_le, ?_, ?_⟩
    · intro k' whole' bare'
      refine ⟨hs.unique, ?_⟩
      rintro ⟨rfl, rfl, rfl⟩
      exact hs
    · intro n hn hl
      exact resolve_of_literal hs hl hn
    · exact resolve_of_no_literal hs
  · intro n hn h
    have hs : (text s).value = .ok (BitVec.ofNat 256 n) := h.value_eq hn
    exact ⟨beq_of_value hs rfl, beq_of_value rfl hs, Bytes.needed n, Bytes.needed_le_iff n,
      resolve64_of_resolve (h.resolve_eq hn key) hn⟩

theorem text_resolves_spelled :
    (Spells " 0X_1f " 31 ∧ (text " 0X_1f " == unsigned (BitVec.ofNat 256 31)) = true ∧
      (text " 0X_1f ").resolve64 "utxo" = .ok 31) ∧
    (Signed "- -7".toList 2 ['7'] ['7'] ∧
      (text "- -7").resolve "utxo" = .error (.negativeValue "utxo")) := by
  have hblank : ∀ c ∈ [' '], isBlank c = true := List.forall_mem_singleton.mpr rfl
  have hspelled : Spells " 0X_1f " 31 :=
    ⟨[' '], "0X_1f".toList, [' '], by decide, hblank, hblank,
      literal?_eq_some_iff.mp (by decide)⟩
  have hfirst : Trimmed "- -7".toList ('-' :: " -7".toList) := trim_eq_iff.mp rfl
  have hsecond : Trimmed " -7".toList ('-' :: ['7']) := trim_eq_iff.mp rfl
  have hsigned : Signed "- -7".toList 2 ['7'] ['7'] :=
    .minus hfirst (.minus hsecond (.bare (trim_eq_iff.mp rfl) (by decide)))
  refine ⟨⟨hspelled, ?_⟩, hsigned, ?_⟩
  · obtain ⟨hsame, -, least, -, h64⟩ :=
      (text_resolves " 0X_1f " "utxo").2 31 (by norm_num) hspelled
    exact ⟨hsame, h64⟩
  · obtain ⟨⟨k, whole, bare, hunique, -, -, hliteral, -⟩, -⟩ := text_resolves "- -7" "utxo"
    obtain ⟨rfl, rfl, rfl⟩ := (hunique _ _ _).mp hsigned
    exact hliteral 7 (by norm_num) (literal?_eq_some_iff.mp (by decide))

end Value

end Numeral

end Attestation
