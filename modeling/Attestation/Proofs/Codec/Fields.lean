import Mathlib
import Attestation.Proofs.Codec.Field
import Attestation.Proofs.Layout

/-!
The fields of a layout, one after the other. Bytes of the length of the layout are written again
from what was read from them (`encodeFields_decodeFields`), and each field of a request comes back
settled from its bytes (`decodeFields_encodeFields`).
-/

namespace Attestation

namespace Request

variable {r d : Request}

/-- The values of the second request are the settled values of the first. -/
def Settled (r d : Request) : Prop :=
  List.Forall₂ (fun p w => p.2.Settled p.1.width w) (r.kind.scheme.request.zip r.values) d.values

lemma settled_of_read? (hk : d.kind = r.kind) (h : ∀ f ∈ r.kind.scheme.request, ∃ v w,
      r.read? f.key = some v ∧ d.read? f.key = some w ∧ v.Settled f.width w) : r.Settled d := by
  have hl := r.length_values
  have hl' := d.length_values
  rw [hk] at hl'
  refine List.forall₂_iff_get.mpr ⟨by simp [hl, hl'], fun i hi hi' => ?_⟩
  rw [hl'] at hi'
  have hf : d.kind.scheme.request[i]? = some r.kind.scheme.request[i] := by
    rw [hk, List.getElem?_eq_getElem hi']
  obtain ⟨v, w, hv, hw, hs⟩ := h _ (List.getElem_mem hi')
  rw [read?_eq (List.getElem?_eq_getElem hi')] at hv
  rw [read?_eq hf] at hw
  obtain ⟨_, rfl⟩ := List.getElem?_eq_some_iff.mp hv
  obtain ⟨_, rfl⟩ := List.getElem?_eq_some_iff.mp hw
  simpa using hs

lemma Settled.header_eq (h : r.Settled d) :
    d.kind = r.kind ∧ d.source = r.source ∧ d.integrityCode = r.integrityCode := by
  obtain ⟨hk, h⟩ := List.forall₂_cons.mp h
  obtain ⟨hs, h⟩ := List.forall₂_cons.mp h
  obtain ⟨hc, -⟩ := List.forall₂_cons.mp h
  refine ⟨FieldValue.settled_kind_iff.mp hk, FieldValue.settled_source_iff.mp hs, ?_⟩
  have hb := FieldValue.settled_bytes_iff.mp hc
  exact Word.toBytes_inj.mp (hb.trans (Bytes.padLeft_of_le (by simp)))

end Request

namespace Codec

variable {s : Scheme} {f : RequestField} {fs : List RequestField} {b : Bytes} {r d : Request}

lemma encodeFields_cons (hr : r.kind = s.kind) : encodeFields s r (f :: fs) =
    ((r.read? f.key).elim (.error (.missingField f.key)) fun v => encodeField s f v) >>= fun c =>
      encodeFields s r fs >>= fun t => .ok (c ++ t) := by
  rw [encodeFields, ← hr, show (r.kind.binding? f.key).bind (·.get r) = r.read? f.key from rfl]
  cases r.read? f.key <;> rfl

lemma encodeFields_cons_iff (hr : r.kind = s.kind) :
    encodeFields s r (f :: fs) = .ok b ↔ ∃ v c t, r.read? f.key = some v ∧
      encodeField s f v = .ok c ∧ encodeFields s r fs = .ok t ∧ b = c ++ t := by
  rw [encodeFields_cons hr]
  cases r.read? f.key with
  | none => simp
  | some v => simp [Except.bind_eq_ok_iff, eq_comm (a := b)]

lemma exists_encodeFields_iff (hr : r.kind = s.kind) : (∃ b, encodeFields s r fs = .ok b) ↔
    ∀ f ∈ fs, ∃ v c, r.read? f.key = some v ∧ encodeField s f v = .ok c := by
  induction fs with
  | nil => simp [encodeFields]
  | cons f fs ih =>
    rw [List.forall_mem_cons, ← ih]
    constructor
    · rintro ⟨b, h⟩
      obtain ⟨v, c, t, hv, hc, ht, -⟩ := (encodeFields_cons_iff hr).mp h
      exact ⟨⟨v, c, hv, hc⟩, t, ht⟩
    · rintro ⟨⟨v, c, hv, hc⟩, t, ht⟩
      exact ⟨c ++ t, (encodeFields_cons_iff hr).mpr ⟨v, c, t, hv, hc, ht, rfl⟩⟩

lemma decodeFields_cons (hd : d.kind = s.kind) : decodeFields s (f :: fs) b d =
    decodeField s f (b.take f.width) >>= fun v =>
      (d.write? f.key v).elim (.error (.invalidScheme s.title (.undecodable f.key s.kind)))
        (decodeFields s fs (b.drop f.width)) := by
  rw [decodeFields]
  refine bind_congr fun v => ?_
  rw [← hd, show (d.kind.binding? f.key).bind (·.set d v) = d.write? f.key v from rfl]
  cases d.write? f.key v <;> rfl

lemma decodeFields_cons_iff (hd : d.kind = s.kind) :
    decodeFields s (f :: fs) b d = .ok r ↔ ∃ v e, decodeField s f (b.take f.width) = .ok v ∧
      d.write? f.key v = some e ∧ decodeFields s fs (b.drop f.width) e = .ok r := by
  rw [decodeFields_cons hd, Except.bind_eq_ok_iff]
  refine exists_congr fun v => ?_
  cases d.write? f.key v <;> simp

-- The kind is only checked, never changed, and the integrity code asks for 32 bytes.
lemma exists_write?_decoded {v : FieldValue} (hl : Layout s.kind (f :: fs)) (hd : d.kind = s.kind)
    (hb : b.length = f.width) (hv : decodeField s f b = .ok v)
    (hk : ∀ j, v = .kind j → j = s.kind) : ∃ e, d.write? f.key v = some e := by
  obtain ⟨g, hg, hgk⟩ := hl.bound f List.mem_cons_self
  refine Request.exists_write? (hd ▸ hg) ?_ (hd ▸ hk) ?_
  · rw [fieldKind_of_decodeField hv, hgk]
  · rintro hc x rfl
    rw [eq_of_decodeField_bytes hv, hb, hl.code_width f List.mem_cons_self hc]

lemma decodeFields_frame (hd : d.kind = s.kind) (h : decodeFields s fs b d = .ok r) :
    r.kind = s.kind ∧ ∀ key ∉ fs.map (·.key), r.read? key = d.read? key := by
  induction fs generalizing b d with
  | nil =>
    cases h
    exact ⟨hd, fun _ _ => rfl⟩
  | cons f fs ih =>
    obtain ⟨v, e, -, he, ht⟩ := (decodeFields_cons_iff hd).mp h
    obtain ⟨hk, hf⟩ := ih ((Request.kind_write? he).trans hd) ht
    refine ⟨hk, fun key hn => ?_⟩
    rw [List.map_cons, List.mem_cons, not_or] at hn
    rw [hf key hn.2, Request.read?_write?_of_ne he hn.1]

theorem encodeFields_decodeFields (hl : Layout s.kind fs) (hd : d.kind = s.kind)
    (hb : b.length = (fs.map (·.width)).sum) (h : decodeFields s fs b d = .ok r) :
    encodeFields s r fs = .ok b := by
  induction fs generalizing b d with
  | nil => simp_all [encodeFields]
  | cons f fs ih =>
    rw [List.map_cons, List.sum_cons] at hb
    obtain ⟨v, e, hv, he, ht⟩ := (decodeFields_cons_iff hd).mp h
    have hek : e.kind = s.kind := (Request.kind_write? he).trans hd
    obtain ⟨hr, hframe⟩ := decodeFields_frame hek ht
    have hread : r.read? f.key = some v := by
      rw [hframe f.key hl.not_mem, Request.read?_write? he]
    have hc : encodeField s f v = .ok (b.take f.width) :=
      encodeField_decodeField hv (by simp; omega) (hl.width_le f List.mem_cons_self)
    have hrest := ih hl.tail hek (by simp; omega) ht
    exact (encodeFields_cons_iff hr).mpr ⟨v, _, _, hread, hc, hrest, (List.take_append_drop _ _).symm⟩

lemma length_encodeFields (hr : r.kind = s.kind) (h : encodeFields s r fs = .ok b) :
    b.length = (fs.map (·.width)).sum := by
  induction fs generalizing b with
  | nil =>
    cases h
    rfl
  | cons f fs ih =>
    obtain ⟨v, c, t, -, hc, ht, rfl⟩ := (encodeFields_cons_iff hr).mp h
    rw [List.length_append, length_encodeField hc, ih ht, List.map_cons, List.sum_cons]

theorem decodeFields_encodeFields (hl : Layout s.kind fs) (hr : r.kind = s.kind)
    (hd : d.kind = s.kind) (h : encodeFields s r fs = .ok b) :
    ∃ d', decodeFields s fs b d = .ok d' ∧ ∀ f ∈ fs, ∃ v w, r.read? f.key = some v ∧
      d'.read? f.key = some w ∧ v.Settled f.width w := by
  induction fs generalizing b d with
  | nil =>
    cases h
    exact ⟨d, rfl, by simp⟩
  | cons f fs ih =>
    obtain ⟨v, c, t, hv, hc, ht, rfl⟩ := (encodeFields_cons_iff hr).mp h
    have hlen := length_encodeField hc
    obtain ⟨w, hw, hs⟩ := decodeField_encodeField hc
    obtain ⟨e, he⟩ := exists_write?_decoded hl hd hlen hw (by
      rintro j rfl
      cases hs
      exact (Request.kind_of_read? hv).trans hr)
    have hek : e.kind = s.kind := (Request.kind_write? he).trans hd
    obtain ⟨d', hd', hall⟩ := ih hl.tail hek ht
    refine ⟨d', (decodeFields_cons_iff hd).mpr ⟨w, e, ?_, he, ?_⟩, ?_⟩
    · rwa [← hlen, List.take_left]
    · rwa [← hlen, List.drop_left]
    · rw [List.forall_mem_cons]
      refine ⟨⟨v, w, hv, ?_, hs⟩, hall⟩
      rw [(decodeFields_frame hek hd').2 f.key hl.not_mem, Request.read?_write? he]

lemma decodeFields_total (hl : Layout s.kind fs) (hd : d.kind = s.kind)
    (hf : ∀ f ∈ fs, f.kind = .number ∨ f.kind = .bytes) (hb : b.length = (fs.map (·.width)).sum) :
    ∃ r, decodeFields s fs b d = .ok r := by
  induction fs generalizing b d with
  | nil => exact ⟨d, rfl⟩
  | cons f fs ih =>
    rw [List.forall_mem_cons] at hf
    rw [List.map_cons, List.sum_cons] at hb
    obtain ⟨v, hv, hk⟩ : ∃ v, decodeField s f (b.take f.width) = .ok v ∧ ∀ j, v ≠ .kind j := by
      rcases hf.1 with hf | hf
      · exact ⟨.number (.ofNat (Bytes.toNat (b.take f.width))), by simp [decodeField, hf], by simp⟩
      · exact ⟨.bytes (b.take f.width), by simp [decodeField, hf], by simp⟩
    obtain ⟨e, he⟩ :=
      exists_write?_decoded hl hd (by simp; omega) hv fun j hj => absurd hj (hk j)
    obtain ⟨r, hr⟩ := ih hl.tail ((Request.kind_write? he).trans hd) hf.2
      (b := b.drop f.width) (by simp; omega)
    exact ⟨r, (decodeFields_cons_iff hd).mpr ⟨v, e, hv, he, hr⟩⟩

end Codec

end Attestation
