import Mathlib
import Attestation.Proofs.Codec.Same

/-!
Main statement: which requests can be written, as which bytes, and with which error all others are
refused. A value for which there is room in its field is written (`encodeField_eq_ok_iff`), any
other offends (`encodeField_eq_error_iff`), and of the values that offend the first one is the error
(`encodeFields_eq_error_iff`).
-/

namespace Attestation

namespace FieldValue

/-- Whether there is room for a value in a field of so many bytes. -/
def Fits (width : ℕ) : FieldValue → Prop
  | number n => ∃ w, n.value = .ok w ∧ w.toNat < 256 ^ width
  | bytes x => x.length ≤ width
  | kind _ | source _ => True

/-- The bytes of a value: those of a number most significant first, those of a byte string behind
zeros. -/
inductive Written (width : ℕ) : FieldValue → Bytes → Prop
  | kind {k : Kind} {b : Bytes} (hl : b.length = width) (hb : b.toNat = k.id.toNat) :
    Written width (.kind k) b
  | source {t : Source} {b : Bytes} (hl : b.length = width) (hb : b.toNat = t.id.toNat) :
    Written width (.source t) b
  | number {n : Numeral} {w : Word} {b : Bytes} (hn : n.value = .ok w) (hl : b.length = width)
    (hb : b.toNat = w.toNat) : Written width (.number n) b
  | bytes {x : Bytes} (hl : x.length ≤ width) :
    Written width (.bytes x) (List.replicate (width - x.length) 0 ++ x)

/-- The error of a value for which there is no room in a field. A number that is too large is named
with the least number of bytes that hold it. -/
inductive Offends (f : RequestField) : FieldValue → Error → Prop
  | negative {n : Numeral} (hn : n.value = .error .negative) :
    Offends f (.number n) (.negativeValue f.key)
  | unreadable {n : Numeral} {text : String} (hn : n.value = .error (.unreadable text)) :
    Offends f (.number n) (.invalidNumber text)
  | large {n : Numeral} {w : Word} {least : ℕ} (hn : n.value = .ok w)
    (hleast : ∀ m, least ≤ m ↔ w.toNat < 256 ^ m) (hw : f.width < least) :
    Offends f (.number n) (.fieldTooLong f.key f.width least)
  | long {x : Bytes} (hx : f.width < x.length) :
    Offends f (.bytes x) (.fieldTooLong f.key f.width x.length)

end FieldValue

/-- The fields of the scheme of a request with its values. -/
def Request.fields (r : Request) : List (RequestField × FieldValue) :=
  r.kind.scheme.request.zip r.values

namespace Codec

variable {s : Scheme} {f : RequestField} {v : FieldValue} {b : Bytes} {e : Error} {w : Word}
  {r : Request} {ps : List (RequestField × FieldValue)}

lemma writeNumber_iff_toNat :
    writeNumber f w = .ok b ↔ b.length = f.width ∧ b.toNat = w.toNat := by
  refine ⟨toNat_of_writeNumber, fun ⟨hl, hb⟩ => writeNumber_eq_ok_iff.mpr ⟨?_, ?_⟩⟩
  · rw [← hl, ← hb]
    exact Bytes.toNat_lt b
  · rw [← hl, ← hb, Bytes.ofNat_toNat]

lemma writeNumber_eq_error_iff : writeNumber f w = .error e ↔ ∃ least,
    (∀ m, least ≤ m ↔ w.toNat < 256 ^ m) ∧ f.width < least ∧
      e = .fieldTooLong f.key f.width least := by
  have hneeded (m : ℕ) : Bytes.needed w.toNat ≤ m ↔ w.toNat < 256 ^ m := Bytes.needed_le_iff _ _
  rw [writeNumber]
  constructor
  · intro h
    split at h
    · next hw =>
      cases h
      exact ⟨_, hneeded, hw, rfl⟩
    · cases h
  · rintro ⟨least, hleast, hw, rfl⟩
    have heq : Bytes.needed w.toNat = least :=
      le_antisymm ((hneeded least).mpr ((hleast least).mp le_rfl))
        ((hleast _).mpr ((hneeded _).mp le_rfl))
    rw [heq, if_pos hw]

-- The ids of kinds and sources are small.
lemma exists_writeNumber_kind (hf : 1 ≤ f.width) (k : Kind) :
    ∃ b, writeNumber f (BitVec.ofNat 256 k.id.toNat) = .ok b := by
  have hid : (BitVec.ofNat 256 k.id.toNat).toNat < 256 ^ 1 := by cases k <;> decide
  exact ⟨_, writeNumber_eq_ok_iff.mpr
    ⟨hid.trans_le (Nat.pow_le_pow_right (by decide) hf), rfl⟩⟩

lemma exists_writeNumber_source (hf : 1 ≤ f.width) (t : Source) :
    ∃ b, writeNumber f (BitVec.ofNat 256 t.id.toNat) = .ok b := by
  have hid : (BitVec.ofNat 256 t.id.toNat).toNat < 256 ^ 1 := by cases t <;> decide
  exact ⟨_, writeNumber_eq_ok_iff.mpr
    ⟨hid.trans_le (Nat.pow_le_pow_right (by decide) hf), rfl⟩⟩

lemma toNat_kind (k : Kind) : (BitVec.ofNat 256 k.id.toNat).toNat = k.id.toNat := by
  cases k <;> rfl

lemma toNat_source (t : Source) : (BitVec.ofNat 256 t.id.toNat).toNat = t.id.toNat := by
  cases t <;> rfl

lemma resolve_eq_error_iff {n : Numeral} {key : String} :
    n.resolve key = .error e ↔ ∃ trouble, n.value = .error trouble ∧ e = trouble.at key := by
  cases h : n.value <;> simp [Numeral.resolve, Except.mapError, h, eq_comm]

lemma encodeField_kind (hf : f.kind = .attestationType) (k : Kind) :
    encodeField s f (.kind k) = writeNumber f (BitVec.ofNat 256 k.id.toNat) := by
  simp only [encodeField, hf]

lemma encodeField_source (hf : f.kind = .sourceId) (t : Source) :
    encodeField s f (.source t) = writeNumber f (BitVec.ofNat 256 t.id.toNat) := by
  simp only [encodeField, hf]

lemma encodeField_number (hf : f.kind = .number) (n : Numeral) :
    encodeField s f (.number n) = n.resolve f.key >>= writeNumber f := by
  simp only [encodeField, hf]

lemma encodeField_bytes (hf : f.kind = .bytes) (x : Bytes) :
    encodeField s f (.bytes x) = writeBytes f x := by
  simp only [encodeField, hf]

section Field

variable (hk : v.fieldKind = f.kind)
include hk

theorem encodeField_eq_ok_iff : encodeField s f v = .ok b ↔ v.Written f.width b := by
  cases v with
  | kind k =>
    rw [encodeField_kind hk.symm, writeNumber_iff_toNat, toNat_kind]
    constructor
    · rintro ⟨hl, hb⟩
      exact .kind hl hb
    · intro h
      cases h with
      | kind hl hb => exact ⟨hl, hb⟩
  | source t =>
    rw [encodeField_source hk.symm, writeNumber_iff_toNat, toNat_source]
    constructor
    · rintro ⟨hl, hb⟩
      exact .source hl hb
    · intro h
      cases h with
      | source hl hb => exact ⟨hl, hb⟩
  | number n =>
    rw [encodeField_number hk.symm, Except.bind_eq_ok_iff]
    constructor
    · rintro ⟨w, hw, hb⟩
      obtain ⟨hl, hb⟩ := writeNumber_iff_toNat.mp hb
      exact .number (resolve_eq_ok_iff.mp hw) hl hb
    · intro h
      cases h with
      | number hn hl hb =>
        exact ⟨_, resolve_eq_ok_iff.mpr hn, writeNumber_iff_toNat.mpr ⟨hl, hb⟩⟩
  | bytes x =>
    rw [encodeField_bytes hk.symm, writeBytes_eq_ok_iff]
    constructor
    · rintro ⟨hl, rfl⟩
      exact .bytes hl
    · intro h
      cases h with
      | bytes hl => exact ⟨hl, rfl⟩

theorem encodeField_eq_error_iff (hf : 1 ≤ f.width) :
    encodeField s f v = .error e ↔ v.Offends f e := by
  cases v with
  | kind k =>
    obtain ⟨b, hb⟩ := exists_writeNumber_kind hf k
    rw [encodeField_kind hk.symm, hb]
    exact ⟨nofun, nofun⟩
  | source t =>
    obtain ⟨b, hb⟩ := exists_writeNumber_source hf t
    rw [encodeField_source hk.symm, hb]
    exact ⟨nofun, nofun⟩
  | number n =>
    rw [encodeField_number hk.symm, Except.bind_eq_error_iff]
    constructor
    · rintro (hr | ⟨w, hw, he⟩)
      · obtain ⟨trouble, hn, rfl⟩ := resolve_eq_error_iff.mp hr
        cases trouble with
        | negative => exact .negative hn
        | unreadable text => exact .unreadable hn
      · obtain ⟨least, hleast, hlt, rfl⟩ := writeNumber_eq_error_iff.mp he
        exact .large (resolve_eq_ok_iff.mp hw) hleast hlt
    · intro h
      cases h with
      | negative hn => exact .inl (resolve_eq_error_iff.mpr ⟨_, hn, rfl⟩)
      | unreadable hn => exact .inl (resolve_eq_error_iff.mpr ⟨_, hn, rfl⟩)
      | large hn hleast hlt =>
        exact .inr ⟨_, resolve_eq_ok_iff.mpr hn, writeNumber_eq_error_iff.mpr ⟨_, hleast, hlt, rfl⟩⟩
  | bytes x =>
    rw [encodeField_bytes hk.symm, writeBytes]
    constructor
    · intro h
      split at h
      · next hx =>
        cases h
        exact .long hx
      · cases h
    · intro h
      cases h with
      | long hx => rw [if_pos hx]

lemma fits_iff_exists_encodeField (hf : 1 ≤ f.width) :
    v.Fits f.width ↔ ∃ b, encodeField s f v = .ok b := by
  cases v with
  | kind k =>
    rw [encodeField_kind hk.symm]
    exact iff_of_true trivial (exists_writeNumber_kind hf k)
  | source t =>
    rw [encodeField_source hk.symm]
    exact iff_of_true trivial (exists_writeNumber_source hf t)
  | number n =>
    rw [encodeField_number hk.symm]
    simp only [FieldValue.Fits, Except.bind_eq_ok_iff, resolve_eq_ok_iff, writeNumber_eq_ok_iff]
    constructor
    · rintro ⟨w, hn, hw⟩
      exact ⟨_, w, hn, hw, rfl⟩
    · rintro ⟨b, w, hn, hw, -⟩
      exact ⟨w, hn, hw⟩
  | bytes x =>
    rw [encodeField_bytes hk.symm]
    simp only [FieldValue.Fits, writeBytes_eq_ok_iff]
    constructor
    · intro hx
      exact ⟨_, hx, rfl⟩
    · rintro ⟨b, hx, -⟩
      exact hx

end Field

section Fields

variable (hr : r.kind = s.kind) (hp : ∀ p ∈ ps, r.read? p.1.key = some p.2 ∧
  p.2.fieldKind = p.1.kind ∧ 1 ≤ p.1.width)
include hr hp

lemma exists_encodeFields_iff_fits :
    (∃ b, encodeFields s r (ps.map (·.1)) = .ok b) ↔ ∀ p ∈ ps, p.2.Fits p.1.width := by
  rw [exists_encodeFields_iff hr, List.forall_mem_map]
  refine forall₂_congr fun p hm => ?_
  obtain ⟨hv, hk, hw⟩ := hp p hm
  rw [fits_iff_exists_encodeField (s := s) hk hw]
  simp only [hv, Option.some.injEq]
  constructor
  · rintro ⟨v, c, rfl, hc⟩
    exact ⟨c, hc⟩
  · rintro ⟨c, hc⟩
    exact ⟨_, c, rfl, hc⟩

theorem encodeFields_eq_ok_iff : encodeFields s r (ps.map (·.1)) = .ok b ↔
    ∃ bs, List.Forall₂ (fun p c => p.2.Written p.1.width c) ps bs ∧ b = bs.flatten := by
  induction ps generalizing b with
  | nil =>
    rw [List.map_nil, encodeFields]
    simp [eq_comm]
  | cons p ps ih =>
    rw [List.forall_mem_cons] at hp
    obtain ⟨⟨hv, hk, -⟩, hp⟩ := hp
    rw [List.map_cons, encodeFields_cons_iff hr]
    constructor
    · rintro ⟨v, c, t, hv', hc, ht, rfl⟩
      cases hv.symm.trans hv'
      obtain ⟨bs, hbs, rfl⟩ := (ih hp).mp ht
      exact ⟨c :: bs, .cons ((encodeField_eq_ok_iff hk).mp hc) hbs, rfl⟩
    · rintro ⟨_, hbs, rfl⟩
      cases hbs with
      | cons hc hbs =>
        exact ⟨_, _, _, hv, (encodeField_eq_ok_iff hk).mpr hc, (ih hp).mpr ⟨_, hbs, rfl⟩, rfl⟩

theorem encodeFields_eq_error_iff : encodeFields s r (ps.map (·.1)) = .error e ↔
    ∃ earlier p later, ps = earlier ++ p :: later ∧ (∀ q ∈ earlier, q.2.Fits q.1.width) ∧
      p.2.Offends p.1 e := by
  induction ps with
  | nil => simp [encodeFields]
  | cons p ps ih =>
    rw [List.forall_mem_cons] at hp
    obtain ⟨⟨hv, hk, hw⟩, hp⟩ := hp
    rw [List.map_cons, encodeFields_cons hr, hv, Option.elim_some, Except.bind_eq_error_iff,
      Except.exists_first_cons_iff, ← ih hp, fits_iff_exists_encodeField (s := s) hk hw]
    refine or_congr (encodeField_eq_error_iff hk hw) ?_
    constructor
    · rintro ⟨c, hc, ht⟩
      rcases Except.bind_eq_error_iff.mp ht with he | ⟨t, -, he⟩
      · exact ⟨⟨c, hc⟩, he⟩
      · cases he
    · rintro ⟨⟨c, hc⟩, he⟩
      exact ⟨c, hc, Except.bind_eq_error_iff.mpr (.inl he)⟩

end Fields

end Codec

namespace Request

lemma map_fst_fields (r : Request) : r.fields.map (·.1) = r.kind.scheme.request :=
  List.map_fst_zip (length_values r).ge

lemma read?_of_mem_fields {r : Request} {p : RequestField × FieldValue} (hp : p ∈ r.fields) :
    r.read? p.1.key = some p.2 ∧ p.2.fieldKind = p.1.kind ∧ 1 ≤ p.1.width := by
  obtain ⟨i, hi⟩ := List.getElem?_of_mem hp
  obtain ⟨hf, hv⟩ := List.getElem?_zip_eq_some.mp hi
  have hm : p.1 ∈ r.kind.scheme.request := List.mem_of_getElem? hf
  have hread : r.read? p.1.key = some p.2 := (read?_eq hf).trans hv
  obtain ⟨g, hg, hgk⟩ := r.kind.layout.bound p.1 hm
  obtain ⟨v, hv', hk⟩ := exists_read? hg
  cases hread.symm.trans hv'
  exact ⟨hread, hk.trans hgk, r.kind.layout.width_pos p.1 hm⟩

end Request

namespace Codec

theorem encode_exact (r : Request) :
    r.fields.map (·.1) = r.kind.scheme.request ∧
    (∀ p ∈ r.fields, r.read? p.1.key = some p.2) ∧
    ((∃ b, encode r = .ok b) ↔ ∀ p ∈ r.fields, p.2.Fits p.1.width) ∧
    (∀ b, encode r = .ok b ↔ b.length = r.kind.scheme.size ∧
      ∃ bs, List.Forall₂ (fun p c => p.2.Written p.1.width c) r.fields bs ∧ b = bs.flatten) ∧
    (∀ e, encode r = .error e ↔
      ∃ earlier p later, r.fields = earlier ++ p :: later ∧
        (∀ q ∈ earlier, q.2.Fits q.1.width) ∧ p.2.Offends p.1 e) ∧
    (∀ id, encode r ≠ .error (.unsupportedKind id)) ∧
    (∀ kind source, encode r ≠ .error (.unsupportedSource kind source)) ∧
    (∀ key, encode r ≠ .error (.missingField key)) ∧
    ∀ name flaw, encode r ≠ .error (.invalidScheme name flaw) := by
  have hk : r.kind = r.kind.scheme.kind := rfl
  have hp := fun p => Request.read?_of_mem_fields (r := r) (p := p)
  have hfits := exists_encodeFields_iff_fits hk hp
  have hok (b : Bytes) := encodeFields_eq_ok_iff (b := b) hk hp
  have herror (e : Error) := encodeFields_eq_error_iff (e := e) hk hp
  simp only [Request.map_fst_fields, ← encode_eq] at herror hok hfits
  refine ⟨r.map_fst_fields, fun p hm => (hp p hm).1, hfits, fun b => ?_, herror, fun id h => ?_,
    fun kind source h => ?_, fun key h => ?_, fun name flaw h => ?_⟩
  · rw [← hok, iff_and_self, encode_eq, Scheme.size_eq]
    exact length_encodeFields rfl
  all_goals
    obtain ⟨-, ⟨f, v⟩, -, -, -, hoff⟩ := (herror _).mp h
    cases hoff

-- The transaction is one byte too long, the block below zero and the output too large.
example : encode (.of .btc (.payment ⟨List.replicate 33 0, .signed (-1), .ofNat 0, .ofNat 256⟩)) =
    .error (.fieldTooLong "id" 32 33) := by
  decide +kernel

end Codec

end Attestation
