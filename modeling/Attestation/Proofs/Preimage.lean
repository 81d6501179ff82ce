import Mathlib
import Attestation.Hash.Lemmas
import Attestation.Preimage

/-!
Main statement: a preimage tells its response body, source, round and salt. The words are read off
one by one (`append_ofWords_inj`), the first one being the kind, and what a salt adds behind them
tells the salt (`salting_inj`).
-/

namespace Attestation

namespace Word

lemma ofNat_inj {m n : ℕ} (hm : m < 2 ^ 256) (hn : n < 2 ^ 256) : ofNat m = ofNat n ↔ m = n := by
  rw [ofNat, ofNat, ← BitVec.toNat_inj, BitVec.toNat_ofNat, BitVec.toNat_ofNat,
    Nat.mod_eq_of_lt hm, Nat.mod_eq_of_lt hn]

@[simp] lemma ofNat_toNat8 {a b : UInt8} : ofNat a.toNat = ofNat b.toNat ↔ a = b := by
  have ha := a.toNat_lt
  have hb := b.toNat_lt
  rw [ofNat_inj (by omega) (by omega), UInt8.toNat_inj]

@[simp] lemma ofNat_toNat64 {a b : UInt64} : ofNat a.toNat = ofNat b.toNat ↔ a = b := by
  have ha := a.toNat_lt
  have hb := b.toNat_lt
  rw [ofNat_inj (by omega) (by omega), UInt64.toNat_inj]

@[simp] lemma ofNat_toNat128 {a b : BitVec 128} : ofNat a.toNat = ofNat b.toNat ↔ a = b := by
  have ha := a.isLt
  have hb := b.isLt
  rw [ofNat_inj (by omega) (by omega), BitVec.toNat_inj]

@[simp] lemma ofBool_inj {a b : Bool} : ofBool a = ofBool b ↔ a = b := by
  cases a <;> cases b <;> decide

lemma ofNat_kind_inj {j k : Kind} : ofNat j.id.toNat = ofNat k.id.toNat ↔ j = k := by
  cases j <;> cases k <;> decide

lemma ofNat_source_inj {s t : Source} : ofNat s.id.toNat = ofNat t.id.toNat ↔ s = t := by
  cases s <;> cases t <;> decide

end Word

lemma Bytes.ofText_inj {s t : String} : ofText s = ofText t ↔ s = t := by
  refine ⟨fun h => ?_, congrArg ofText⟩
  have hb : s.toByteArray = t.toByteArray := ByteArray.ext (Array.toList_inj.mp h)
  exact String.toByteArray_inj.mp hb

namespace ResponseBody

variable {a b : ResponseBody}

lemma length_words_eq (h : a.kind = b.kind) : a.words.length = b.words.length := by
  cases a <;> cases b <;> cases h <;> rfl

lemma words_inj (hk : a.kind = b.kind) (h : a.words = b.words) : a = b := by
  rcases a with f | f | f | f <;> rcases b with g | g | g | g <;> cases hk <;>
    cases f <;> cases g <;> simpa [words] using h

end ResponseBody

namespace Preimage

variable {b c : ResponseBody} {j k : Kind} {s t : Source} {q r : UInt64} {x y : Option String}
  {u v : List Word} {d e : Bytes}

lemma length_ofWords (ws : List Word) : (ofWords ws).length = 32 * ws.length := by
  induction ws with
  | nil => rfl
  | cons w ws ih =>
    rw [ofWords, List.flatMap_cons, List.length_append, Word.length_toBytes, ← ofWords, ih,
      List.length_cons]
    omega

lemma ofWords_cons (w : Word) (ws : List Word) : ofWords (w :: ws) = w.toBytes ++ ofWords ws :=
  List.flatMap_cons

lemma append_ofWords_inj (hl : u.length = v.length) :
    ofWords u ++ d = ofWords v ++ e ↔ u = v ∧ d = e := by
  refine ⟨fun h => ?_, fun ⟨hu, hd⟩ => by rw [hu, hd]⟩
  induction u generalizing v with
  | nil =>
    cases List.length_eq_zero_iff.mp hl.symm
    exact ⟨rfl, h⟩
  | cons w u ih =>
    obtain ⟨z, v, rfl⟩ := List.exists_cons_of_length_eq_add_one hl.symm
    rw [ofWords_cons, ofWords_cons, List.append_assoc, List.append_assoc] at h
    obtain ⟨hw, h⟩ := List.append_inj h (by rw [Word.length_toBytes, Word.length_toBytes])
    obtain ⟨rfl, hd⟩ := ih (by simpa using hl) h
    exact ⟨congrArg (· :: u) (Word.toBytes_inj.mp hw), hd⟩

/-- What a salt adds behind a number of words. -/
def tail (count : ℕ) : Option String → Bytes
  | none => []
  | some s => salting count s

lemma of_eq (b : ResponseBody) (k : Kind) (s : Source) (r : UInt64) (x : Option String) :
    of b k s r x = ofWords (words b k s r) ++ tail (b.words.length + 3) x := by
  cases x with
  | none => exact (List.append_nil _).symm
  | some x => rfl

lemma salting_ne_nil (n : ℕ) (s : String) : salting n s ≠ [] := by
  rw [salting, ofWords_cons, ofWords_cons]
  intro h
  have hl := congrArg List.length h
  simp only [List.length_append, Word.length_toBytes, List.length_nil] at hl
  omega

-- Padding adds less than a word, so the padded bytes and the length modulo 2 ^ 256 tell the length.
lemma padRight_inj (h : Bytes.padRight 32 d = Bytes.padRight 32 e)
    (hl : Word.ofNat d.length = Word.ofNat e.length) : d = e := by
  have hp := congrArg List.length h
  have hm := congrArg BitVec.toNat hl
  simp only [Bytes.padRight, List.length_append, List.length_replicate] at hp
  simp only [Word.ofNat, BitVec.toNat_ofNat] at hm
  exact (List.append_inj h (by omega)).1

lemma salting_inj {n : ℕ} {s t : String} : salting n s = salting n t ↔ s = t := by
  refine ⟨fun h => ?_, congrArg (salting n)⟩
  rw [salting, salting] at h
  obtain ⟨hw, hp⟩ := (append_ofWords_inj (by simp)).mp h
  exact Bytes.ofText_inj.mp (padRight_inj hp (by simpa using hw))

lemma tail_inj {n : ℕ} : tail n x = tail n y ↔ x = y := by
  refine ⟨fun h => ?_, congrArg (tail n)⟩
  cases x with
  | none =>
    cases y with
    | none => rfl
    | some t => exact absurd h.symm (salting_ne_nil n t)
  | some s =>
    cases y with
    | none => exact absurd h (salting_ne_nil n s)
    | some t => exact congrArg some (salting_inj.mp h)

-- The kind comes first, so that it is known before the number of words is.
lemma kind_eq_of_of_eq (h : of b j s q x = of c k t r y) : j = k := by
  simp only [of_eq, words, ofWords_cons, List.append_assoc] at h
  have hl : (Word.ofNat j.id.toNat).toBytes.length = (Word.ofNat k.id.toNat).toBytes.length := by
    rw [Word.length_toBytes, Word.length_toBytes]
  obtain ⟨hw, -⟩ := List.append_inj h hl
  exact Word.ofNat_kind_inj.mp (Word.toBytes_inj.mp hw)

lemma of_inj (h : of b b.kind s q x = of c c.kind t r y) : b = c ∧ s = t ∧ q = r ∧ x = y := by
  have hk := kind_eq_of_of_eq h
  have hn := ResponseBody.length_words_eq hk
  rw [of_eq, of_eq, ← hn] at h
  obtain ⟨hw, ht⟩ := (append_ofWords_inj (by simp [words, hn])).mp h
  simp only [words, List.cons.injEq, Word.ofNat_source_inj, Word.ofNat_toNat64] at hw
  obtain ⟨-, hs, hq, hb⟩ := hw
  exact ⟨ResponseBody.words_inj hk hb, hs, hq, tail_inj.mp ht⟩

lemma length_of_none (b : ResponseBody) (s : Source) (r : UInt64) :
    (of b b.kind s r none).length ∈ [288, 320, 384, 480] := by
  rw [of_eq, tail, List.append_nil, length_ofWords]
  cases b <;> simp [words, ResponseBody.words]

theorem preimage_unambiguous (b c : ResponseBody) (s t : Source) (q r : UInt64)
    (x y : Option String) :
    (of b b.kind s q x = of c c.kind t r y ↔ b = c ∧ s = t ∧ q = r ∧ x = y) ∧
    (∀ z, of b b.kind s q (some z) ≠ of c c.kind t r none) ∧
    (b.kind ≠ c.kind → of b b.kind s q x ≠ of c c.kind t r y) := by
  refine ⟨⟨of_inj, ?_⟩, fun z h => ?_, fun hk h => hk (kind_eq_of_of_eq h)⟩
  · rintro ⟨rfl, rfl, rfl, rfl⟩
    rfl
  · obtain ⟨-, -, -, hx⟩ := of_inj h
    cases hx

end Preimage

end Attestation
