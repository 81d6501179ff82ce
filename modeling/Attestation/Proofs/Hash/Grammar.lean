import Mathlib
import Attestation.Hash.Lemmas
import Attestation.Proofs.Numeral.Grammar

/-!
The grammar of hashes in text: 64 hexadecimal digits of either case, behind `0x`, `0X` or nothing.
A text is read as a hash exactly when it spells it (`ofText?_eq_some_iff`).
-/

namespace Attestation

namespace Hex

open Numeral

/-- The values of the two digits of a byte. -/
def halves (x : UInt8) : List ℕ :=
  [x.toNat / 16, x.toNat % 16]

variable {b : Bytes} {n : ℕ} {cs mark ds : List Char} {values : List ℕ}

lemma length_flatMap_halves (b : Bytes) : (b.flatMap halves).length = 2 * b.length := by
  induction b with
  | nil => rfl
  | cons x b ih =>
    rw [List.flatMap_cons, List.length_append, ih, List.length_cons]
    change 2 + _ = _
    omega

lemma halves_ofNat {v w : ℕ} (hv : v < 16) (hw : w < 16) :
    halves (UInt8.ofNat (16 * v + w)) = [v, w] := by
  have hn : (UInt8.ofNat (16 * v + w)).toNat = 16 * v + w := by
    rw [UInt8.toNat_ofNat']
    omega
  have hhigh : (16 * v + w) / 16 = v := by omega
  have hlow : (16 * v + w) % 16 = w := by omega
  rw [halves, hn, hhigh, hlow]

lemma exists_flatMap_halves (h : ∀ v ∈ values, v < 16) (hn : values.length = 2 * n) :
    ∃ b : Bytes, b.flatMap halves = values := by
  induction n generalizing values with
  | zero => exact ⟨[], (List.length_eq_zero_iff.mp hn).symm⟩
  | succ n ih =>
    obtain ⟨v, rest, rfl⟩ := List.exists_cons_of_length_eq_add_one hn
    rw [List.length_cons] at hn
    obtain ⟨w, rest, rfl⟩ := List.exists_cons_of_length_eq_add_one (Nat.succ.inj hn)
    simp only [List.forall_mem_cons, List.length_cons] at h hn
    obtain ⟨hv, hw, hrest⟩ := h
    obtain ⟨b, rfl⟩ := ih hrest (by omega)
    exact ⟨.ofNat (16 * v + w) :: b, by rw [List.flatMap_cons, halves_ofNat hv hw]; rfl⟩

lemma ofDigits_halves (b : Bytes) :
    Nat.ofDigits 16 (b.flatMap halves).reverse = Bytes.toNat b := by
  induction b using List.reverseRecOn with
  | nil => rfl
  | append_singleton b x ih =>
    have hx : (b ++ [x]).flatMap halves = b.flatMap halves ++ [x.toNat / 16, x.toNat % 16] := by
      rw [List.flatMap_append, List.flatMap_singleton, halves]
    rw [hx, List.reverse_append, Bytes.toNat_concat, ← ih]
    simp only [List.reverse_cons, List.reverse_nil, List.nil_append, List.cons_append,
      Nat.ofDigits_cons]
    omega

lemma pairs?_eq_some_iff : pairs? cs = some b ↔ List.Forall₂ IsDigit cs (b.flatMap halves) := by
  constructor
  · intro h
    fun_induction pairs? cs generalizing b with
    | case1 =>
      cases h
      exact .nil
    | case2 => cases h
    | case3 high low cs ih =>
      simp only [Option.bind_eq_bind, Option.bind_eq_some_iff, Option.pure_def,
        Option.some.injEq] at h
      obtain ⟨v, hv, w, hw, rest, hrest, rfl⟩ := h
      have hv := isDigit_of_value? hv
      have hw := isDigit_of_value? hw
      rw [List.flatMap_cons, halves_ofNat hv.1 hw.1]
      exact .cons hv (.cons hw (ih hrest))
  · intro h
    induction b generalizing cs with
    | nil =>
      cases h
      rfl
    | cons x b ih =>
      have hx : UInt8.ofNat (16 * (x.toNat / 16) + x.toNat % 16) = x := by
        rw [Nat.div_add_mod, UInt8.ofNat_toNat]
      rw [List.flatMap_cons] at h
      obtain ⟨high, ds, hhigh, hds, rfl⟩ := List.forall₂_cons_right_iff.mp h
      obtain ⟨low, rest, hlow, hrest, rfl⟩ := List.forall₂_cons_right_iff.mp hds
      simp only [pairs?, value?_of_isDigit hhigh, value?_of_isDigit hlow, ih hrest,
        Option.bind_eq_bind, Option.bind_some, hx, Option.pure_def]

/-- What may stand in front of hexadecimal digits. -/
def IsMark (mark : List Char) : Prop :=
  mark = [] ∨ mark = ['0', 'x'] ∨ mark = ['0', 'X']

lemma exists_mark (cs : List Char) : ∃ mark, IsMark mark ∧ cs = mark ++ body cs := by
  unfold body
  split
  · exact ⟨['0', 'x'], .inr (.inl rfl), rfl⟩
  · exact ⟨['0', 'X'], .inr (.inr rfl), rfl⟩
  · exact ⟨[], .inl rfl, rfl⟩

-- Behind no mark the second of the digits is no letter of a mark.
lemma body_append (hmark : IsMark mark) (hds : List.Forall₂ IsDigit ds values) :
    body (mark ++ ds) = ds := by
  rcases hmark with rfl | rfl | rfl
  · rw [List.nil_append]
    unfold body
    split
    · obtain _ | ⟨_, _ | ⟨hx, _⟩⟩ := hds
      exact absurd hx (not_isDigit rfl)
    · obtain _ | ⟨_, _ | ⟨hx, _⟩⟩ := hds
      exact absurd hx (not_isDigit rfl)
    · rfl
  · rfl
  · rfl

end Hex

namespace Hash

/-- The text is this hash in 64 hexadecimal digits, with or without a mark in front. -/
def Spells (s : String) (h : Hash) : Prop :=
  ∃ mark ds values, s.toList = mark ++ ds ∧ Hex.IsMark mark ∧ ds.length = 64 ∧
    List.Forall₂ Numeral.IsDigit ds values ∧ Nat.ofDigits 16 values.reverse = h.toNat

variable {s : String} {h : Hash}

lemma ofBytes?_eq_some_iff {b : Bytes} :
    ofBytes? b = some h ↔ b.length = 32 ∧ Bytes.toNat b = h.toNat := by
  rw [ofBytes?, Option.ite_none_right_eq_some, Option.some_inj]
  refine and_congr_right fun hl => ?_
  rw [← BitVec.toNat_inj, Word.toNat_ofBytes hl]

theorem ofText?_eq_some_iff : ofText? s = some h ↔ Spells s h := by
  rw [ofText?, Hex.decode?, Option.bind_eq_some_iff]
  constructor
  · rintro ⟨b, hb, hh⟩
    obtain ⟨hl, hn⟩ := ofBytes?_eq_some_iff.mp hh
    obtain ⟨mark, hmark, hs⟩ := Hex.exists_mark s.toList
    have hds := Hex.pairs?_eq_some_iff.mp hb
    refine ⟨mark, _, _, hs, hmark, ?_, hds, ?_⟩
    · rw [hds.length_eq, Hex.length_flatMap_halves, hl]
    · rw [Hex.ofDigits_halves, hn]
  · rintro ⟨mark, ds, values, hs, hmark, hl, hds, hn⟩
    have hvalues : ∀ v ∈ values, v < 16 := by
      intro v hv
      obtain ⟨i, hi, rfl⟩ := List.getElem_of_mem hv
      exact (hds.get (hds.length_eq ▸ hi) hi).1
    obtain ⟨b, rfl⟩ := Hex.exists_flatMap_halves (n := 32) hvalues (hds.length_eq ▸ hl)
    have hb : b.length = 32 := by
      have := Hex.length_flatMap_halves b
      have := hds.length_eq
      omega
    rw [Hex.ofDigits_halves] at hn
    rw [hs, Hex.body_append hmark hds]
    exact ⟨b, Hex.pairs?_eq_some_iff.mpr hds, ofBytes?_eq_some_iff.mpr ⟨hb, hn⟩⟩

end Hash

end Attestation
