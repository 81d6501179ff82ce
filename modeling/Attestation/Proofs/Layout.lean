import Mathlib
import Attestation.Proofs.Access
import Attestation.Scheme

/-!
What the checks of a definition give: the scheme begins with the shared fields, its keys are
different, its widths lie between 1 and 32, and each field is bound to values of its kind. In the
built-in schemes the fields stand in the order of the values of a request (`map_read?`).
-/

namespace Attestation

/-- The last condition is about the one field whose values have a fixed length. -/
structure Layout (k : Kind) (fs : List RequestField) : Prop where
  distinct : (fs.map (·.key)).Nodup
  width_pos : ∀ f ∈ fs, 1 ≤ f.width
  width_le : ∀ f ∈ fs, f.width ≤ 32
  bound : ∀ f ∈ fs, ∃ g, k.binding? f.key = some g ∧ g.kind = f.kind
  code_width : ∀ f ∈ fs, f.key = "messageIntegrityCode" → f.width = 32

namespace Layout

variable {k : Kind} {f : RequestField} {fs : List RequestField}

lemma tail (h : Layout k (f :: fs)) : Layout k fs where
  distinct := (List.nodup_cons.mp h.distinct).2
  width_pos g hg := h.width_pos g (List.mem_cons_of_mem f hg)
  width_le g hg := h.width_le g (List.mem_cons_of_mem f hg)
  bound g hg := h.bound g (List.mem_cons_of_mem f hg)
  code_width g hg := h.code_width g (List.mem_cons_of_mem f hg)

lemma not_mem (h : Layout k (f :: fs)) : f.key ∉ fs.map (·.key) :=
  (List.nodup_cons.mp h.distinct).1

end Layout

namespace Definition

variable {k : Kind} {f : RequestField} {fs earlier : List RequestField}

lemma fieldFlaw?_eq_none_iff : fieldFlaw? k earlier f = none ↔
    1 ≤ f.width ∧ f.width ≤ 32 ∧ (∀ e ∈ earlier, e.key ≠ f.key) ∧
      ∃ g, k.binding? f.key = some g ∧ g.kind = f.kind := by
  by_cases hw : f.width < 1 ∨ 32 < f.width
  · simp only [fieldFlaw?, if_pos hw, reduceCtorEq, false_iff]
    omega
  by_cases he : earlier.any (·.key == f.key) = true
  · simp only [fieldFlaw?, if_neg hw, if_pos he, reduceCtorEq, false_iff]
    rintro ⟨-, -, hd, -⟩
    obtain ⟨e, hm, hk⟩ := List.any_eq_true.mp he
    exact hd e hm (beq_iff_eq.mp hk)
  have hd : ∀ e ∈ earlier, e.key ≠ f.key := by simpa using he
  have hl : 1 ≤ f.width ∧ f.width ≤ 32 := by omega
  simp only [fieldFlaw?, if_neg hw, if_neg he, and_iff_right hl.1, and_iff_right hl.2,
    and_iff_right hd]
  cases hb : k.binding? f.key <;> simp

lemma layoutFlaw?_eq_none_iff : layoutFlaw? k earlier fs = none ↔
    (∀ f ∈ fs, 1 ≤ f.width ∧ f.width ≤ 32 ∧ (∀ e ∈ earlier, e.key ≠ f.key) ∧
      ∃ g, k.binding? f.key = some g ∧ g.kind = f.kind) ∧ (fs.map (·.key)).Nodup := by
  induction fs generalizing earlier with
  | nil => simp [layoutFlaw?]
  | cons f fs ih =>
    rw [layoutFlaw?, Option.or_eq_none_iff, fieldFlaw?_eq_none_iff, ih]
    simp only [List.mem_append, List.mem_singleton, List.forall_mem_cons, List.map_cons,
      List.nodup_cons, List.mem_map, not_exists, not_and]
    constructor
    · rintro ⟨hf, hs, hd⟩
      refine ⟨⟨hf, fun g hg => ?_⟩, fun g hg he => ?_, hd⟩
      · obtain ⟨h₁, h₂, h₃, h₄⟩ := hs g hg
        exact ⟨h₁, h₂, fun e he => h₃ e (.inl he), h₄⟩
      · exact (hs g hg).2.2.1 f (.inr rfl) he.symm
    · rintro ⟨⟨hf, hs⟩, hn, hd⟩
      refine ⟨hf, fun g hg => ?_, hd⟩
      obtain ⟨h₁, h₂, h₃, h₄⟩ := hs g hg
      refine ⟨h₁, h₂, ?_, h₄⟩
      rintro e (he | rfl)
      · exact h₃ e he
      · exact fun he => hn g hg he.symm

lemma check_eq_ok_iff {d : Definition} {s : Scheme} : d.check = .ok s ↔
    spelled? d.name = some d.id ∧ d.sources ≠ [] ∧
      ∃ k, Kind.ofId? d.id = some k ∧ layoutFlaw? k [] (d.scheme k).request = none ∧
        s = d.scheme k := by
  simp only [check, bind, Except.bind, throw, throwThe, MonadExceptOf.throw, pure, Except.pure]
  cases hn : spelled? d.name with
  | none => simp
  | some n =>
    by_cases hi : n = d.id
    · subst hi
      cases hk : Kind.ofId? d.id with
      | none => simp
      | some k =>
        by_cases hs : d.sources = []
        · simp [hs]
        · cases hl : layoutFlaw? k [] (d.scheme k).request with
          | none => simpa [hs, hl] using eq_comm
          | some flaw => simp [hs, hl]
    · simp [hi]

end Definition

namespace Layout

variable {k : Kind} {f : RequestField} {fs : List RequestField}

-- The shared fields come first, so a later field has another key than the integrity code.
lemma of_flawless (h : Definition.layoutFlaw? k [] (Scheme.header ++ fs) = none) :
    Layout k (Scheme.header ++ fs) := by
  obtain ⟨hf, hd⟩ := Definition.layoutFlaw?_eq_none_iff.mp h
  refine ⟨hd, fun f hm => (hf f hm).1, fun f hm => (hf f hm).2.1, fun f hm => (hf f hm).2.2.2, ?_⟩
  intro f hm hk
  rw [List.map_append, List.nodup_append] at hd
  rcases List.mem_append.mp hm with hm | hm
  · have hh : ∀ f ∈ Scheme.header, f.key = "messageIntegrityCode" → f.width = 32 := by decide
    exact hh f hm hk
  · exact absurd hk.symm (hd.2.2 "messageIntegrityCode" (by decide) _ (List.mem_map_of_mem hm))

end Layout

lemma Kind.layout (k : Kind) : Layout k k.scheme.request := by
  obtain ⟨-, -, j, -, hl, hs⟩ := Definition.check_eq_ok_iff.mp (Definition.check_of k)
  cases congrArg Scheme.kind hs
  exact .of_flawless hl

lemma Registry.scheme_standard_eq (id : UInt16) : standard.scheme id =
    (Kind.ofId? id).elim (.error (.unsupportedKind id)) fun k => .ok k.scheme := by
  have hf : standard.schemes.find? (·.kind.id == id) = (Kind.ofId? id).map Kind.scheme := by
    rw [standard, List.find?_map]
    rfl
  rw [scheme, hf]
  cases Kind.ofId? id <;> rfl

lemma Scheme.size_eq (s : Scheme) : s.size = (s.request.map (·.width)).sum := by
  rw [size, List.sum, List.foldr_map]

namespace Request

variable {r : Request} {f : RequestField} {i : ℕ}

lemma map_read? (r : Request) :
    r.kind.scheme.request.map (fun f => r.read? f.key) = r.values.map some := by
  rcases r with ⟨s, c, b⟩
  cases b <;> rfl

lemma length_values (r : Request) : r.values.length = r.kind.scheme.request.length := by
  simpa using (congrArg List.length (map_read? r)).symm

lemma read?_eq (hf : r.kind.scheme.request[i]? = some f) : r.read? f.key = r.values[i]? := by
  have h := congrArg (·[i]?) (map_read? r)
  simp only [List.getElem?_map, hf, Option.map_some] at h
  cases hv : r.values[i]? <;> simp_all

lemma exists_read?_of_mem (hf : f ∈ r.kind.scheme.request) : ∃ v, r.read? f.key = some v := by
  obtain ⟨g, hg, -⟩ := r.kind.layout.bound f hf
  obtain ⟨v, hv, -⟩ := exists_read? hg
  exact ⟨v, hv⟩

end Request

end Attestation
