import Mathlib
import Attestation.Proofs.Codec.Guarded
import Attestation.Proofs.Codec.Written
import Attestation.Proofs.Scheme.Valid

/-!
What the checks of a definition are good for. Main statement: under any scheme that passed them,
each field of a request is read, written to bytes and set from bytes as the codec assumes, whatever
the order and the widths of the fields (`field_of_check`). That no step of the writing leaves its
bytes is seen on a form of it with partial steps (`encodeField?_eq`).
-/

namespace Attestation

namespace Codec.Guarded

/-- So many bytes at the end of a word, which has 32 of them. -/
def tail? (w : Word) (width : ℕ) : Option Bytes :=
  if width ≤ 32 then some ((Word.toBytes w).drop (32 - width)) else none

/-- Bytes cut off at a length or filled up to it with zeros. -/
def resized (b : Bytes) (length : ℕ) : Bytes :=
  b.take length ++ List.replicate (length - b.length) 0

def writeNumber? (f : RequestField) (n : Word) (out : Bytes) : Option (Except Error Bytes) :=
  let needed := Bytes.needed n.toNat
  if f.width < needed then some (.error (.fieldTooLong f.key f.width needed))
  else (tail? n f.width).map fun t => .ok (out ++ t)

def writeBytes? (f : RequestField) (b out : Bytes) : Option (Except Error Bytes) :=
  if f.width < b.length then some (.error (.fieldTooLong f.key f.width b.length))
  else if b.length ≤ out.length + f.width then
    some (.ok (resized out (out.length + f.width - b.length) ++ b))
  else none

/-- The bytes of a value behind those already written. -/
def encodeField? (s : Scheme) (f : RequestField) (v : FieldValue) (out : Bytes) :
    Option (Except Error Bytes) :=
  match f.kind, v with
  | .attestationType, .kind k => writeNumber? f (BitVec.ofNat 256 k.id.toNat) out
  | .sourceId, .source source => writeNumber? f (BitVec.ofNat 256 source.id.toNat) out
  | .number, .number n =>
    match n.resolve f.key with
    | .ok w => writeNumber? f w out
    | .error e => some (.error e)
  | .bytes, .bytes b => writeBytes? f b out
  | _, _ => some (.error (.invalidScheme s.title (.mistyped f.key f.kind)))

variable {s : Scheme} {f : RequestField} {v : FieldValue} {b out : Bytes} {w : Word}

lemma tail?_eq {width : ℕ} (h : width ≤ 32) : tail? w width = some (Bytes.ofNat width w.toNat) := by
  have hd := Bytes.drop_ofNat (32 - width) width w.toNat
  rw [Nat.sub_add_cancel h] at hd
  rw [tail?, if_pos h, Word.toBytes, hd]

lemma writeNumber?_eq (h : f.width ≤ 32) :
    writeNumber? f w out = some ((writeNumber f w).map (out ++ ·)) := by
  rw [writeNumber?, writeNumber]
  split
  · rfl
  · rw [tail?_eq h]
    rfl

lemma writeBytes?_eq : writeBytes? f b out = some ((writeBytes f b).map (out ++ ·)) := by
  rw [writeBytes?, writeBytes]
  split
  · rfl
  · next hb =>
    have hfill : out.length + f.width - b.length - out.length = f.width - b.length := by omega
    rw [if_pos (by omega), resized, List.take_of_length_le (by omega), hfill, List.append_assoc]
    rfl

lemma encodeField?_eq (h : f.width ≤ 32) :
    encodeField? s f v out = some ((encodeField s f v).map (out ++ ·)) := by
  cases hf : f.kind <;> cases v <;> simp only [encodeField?, encodeField, hf]
  case attestationType.kind | sourceId.source => exact writeNumber?_eq h
  case bytes.bytes => exact writeBytes?_eq
  case number.number n =>
    cases n.resolve f.key with
    | error e => rfl
    | ok w => exact writeNumber?_eq h
  all_goals rfl

end Codec.Guarded

lemma Layout.single {k : Kind} {f : RequestField} {fs : List RequestField} (h : Layout k fs)
    (hf : f ∈ fs) : Layout k [f] where
  distinct := List.nodup_singleton f.key
  width_pos := List.forall_mem_singleton.mpr (h.width_pos f hf)
  width_le := List.forall_mem_singleton.mpr (h.width_le f hf)
  bound := List.forall_mem_singleton.mpr (h.bound f hf)
  code_width := List.forall_mem_singleton.mpr (h.code_width f hf)

lemma Definition.layout_of_check {d : Definition} {s : Scheme} (h : d.check = .ok s) :
    Layout s.kind s.request := by
  obtain ⟨k, hv, rfl⟩ := check_eq_ok_iff_valid.mp h
  exact .of_flawless (layoutFlaw?_eq_none_iff_sound.mpr hv.layout)

namespace Codec

variable {d : Definition} {s : Scheme} {f : RequestField} {v : FieldValue} {b : Bytes}
  {r : Request}

lemma encodeField_ne_invalidScheme (hk : v.fieldKind = f.kind) (hw : 1 ≤ f.width) (name : String)
    (flaw : Flaw) : encodeField s f v ≠ .error (.invalidScheme name flaw) := by
  intro he
  cases (encodeField_eq_error_iff hk hw).mp he

theorem field_of_check (h : d.check = .ok s) (hr : r.kind = s.kind) (hf : f ∈ s.request) :
    ∃ g v, s.kind.binding? f.key = some g ∧ g.kind = f.kind ∧ g.get r = some v ∧
      v.fieldKind = f.kind ∧
      (∀ name flaw, encodeField s f v ≠ .error (.invalidScheme name flaw)) ∧
      (∀ out, Guarded.encodeField? s f v out = some ((encodeField s f v).map (out ++ ·))) ∧
      ∀ b w, b.length = f.width → decodeField s f b = .ok w → (∀ k, w = .kind k → k = s.kind) →
        ∃ r', g.set r w = some r' ∧ r'.kind = r.kind ∧ g.get r' = some w ∧
          ∀ f' ∈ s.request, f' ≠ f → r'.read? f'.key = r.read? f'.key := by
  have hl := Definition.layout_of_check h
  obtain ⟨g, hg, hgk⟩ := hl.bound f hf
  have hgr : r.kind.binding? f.key = some g := hr ▸ hg
  obtain ⟨v, hv, hvk⟩ := Request.exists_read? hgr
  have hget : g.get r = some v := by simpa [Request.read?, hgr] using hv
  refine ⟨g, v, hg, hgk, hget, hvk.trans hgk, ?_, ?_, ?_⟩
  · exact encodeField_ne_invalidScheme (hvk.trans hgk) (hl.width_pos f hf)
  · exact fun out => Guarded.encodeField?_eq (hl.width_le f hf)
  · intro b w hb hw hk
    obtain ⟨r', hr'⟩ := exists_write?_decoded (hl.single hf) hr hb hw hk
    have hset : g.set r w = some r' := by simpa [Request.write?, hgr] using hr'
    have hkind := Request.kind_write? hr'
    have hgr' : r'.kind.binding? f.key = some g := hkind ▸ hgr
    have hread := Request.read?_write? hr'
    refine ⟨r', hset, hkind, by simpa [Request.read?, hgr'] using hread, fun f' hf' hne => ?_⟩
    refine Request.read?_write?_of_ne hr' fun hkey => hne ?_
    exact List.inj_on_of_nodup_map hl.distinct hf' hf hkey

/-- Two fields of a payment in another order than in the built-in scheme, and narrower. -/
def narrow : Definition where
  name := "t-00001-narrow"
  id := 1
  title := "Payment"
  sources := [.xrp]
  request := [⟨"utxo", 3, .number⟩, ⟨"id", 7, .bytes⟩]
  response := []

/-- A payment of which the scheme cannot write the transaction. -/
def wide : Request :=
  .of .xrp (.payment ⟨List.replicate 8 1, .ofNat 5, .ofNat 0, .ofNat 9⟩)

theorem field_of_check_narrow :
    narrow.check = .ok (narrow.scheme .payment) ∧ wide.kind = (narrow.scheme .payment).kind ∧
      ⟨"utxo", 3, .number⟩ ∈ (narrow.scheme .payment).request ∧
      ∃ g r', (narrow.scheme .payment).kind.binding? "utxo" = some g ∧
        g.set wide (.number (.ofNat 65538)) = some r' ∧
        g.get r' = some (.number (.ofNat 65538)) ∧ r'.read? "id" = wide.read? "id" := by
  have hc : narrow.check = .ok (narrow.scheme .payment) := rfl
  have hm : ⟨"utxo", 3, .number⟩ ∈ (narrow.scheme .payment).request := by decide
  have hid : ⟨"id", 7, .bytes⟩ ∈ (narrow.scheme .payment).request := by decide
  have hd : decodeField (narrow.scheme .payment) ⟨"utxo", 3, .number⟩ [1, 0, 2] =
    .ok (.number (.ofNat 65538)) := rfl
  obtain ⟨g, v, hg, -, -, -, -, -, hset⟩ := field_of_check hc (r := wide) rfl hm
  obtain ⟨r', hr, -, hget, hother⟩ := hset [1, 0, 2] _ rfl hd (by simp)
  exact ⟨hc, rfl, hm, g, r', hg, hr, hget, hother _ hid (by decide)⟩

end Codec

end Attestation
