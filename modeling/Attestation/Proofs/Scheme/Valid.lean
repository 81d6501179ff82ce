import Mathlib
import Attestation.Proofs.Except
import Attestation.Proofs.Layout

/-!
Which definitions are valid and what is wrong with the others. Only a valid definition has a scheme
(`check_eq_ok_iff_valid`). Any other has one flaw, the first in the order of its name, its kind, its
sources and its fields (`check_eq_error_iff`).
-/

namespace Attestation

namespace Definition

/-- Behind `t-` the name has five ASCII digits of the number. -/
def Spells (name : String) (n : UInt16) : Prop :=
  ∃ ds rest : List Char, name.toList = 't' :: '-' :: (ds ++ rest) ∧ ds.length = 5 ∧
    (∀ c ∈ ds, c.isDigit = true) ∧ Nat.ofDigitChars 10 ds 0 = n.toNat

/-- The fields have widths from 1 to 32 and different keys, and each key is bound for the kind to
values as the field declares them. -/
structure Sound (k : Kind) (fs : List RequestField) : Prop where
  width : ∀ f ∈ fs, 1 ≤ f.width ∧ f.width ≤ 32
  distinct : (fs.map (·.key)).Nodup
  bound : ∀ f ∈ fs, ∃ g, k.binding? f.key = some g ∧ g.kind = f.kind

structure Valid (d : Definition) (k : Kind) : Prop where
  named : Spells d.name d.id
  kind : k.id = d.id
  sourced : d.sources ≠ []
  layout : Sound k (Scheme.header ++ d.request)

/-- What is wrong with a field behind earlier ones. -/
inductive FlawedField (k : Kind) (earlier : List RequestField) (f : RequestField) : Flaw → Prop
  | width (hw : ¬ (1 ≤ f.width ∧ f.width ≤ 32)) : FlawedField k earlier f (.width f.key f.width)
  | repeated (hw : 1 ≤ f.width ∧ f.width ≤ 32) (he : f.key ∈ earlier.map (·.key)) :
    FlawedField k earlier f (.repeatedKey f.key)
  | unbound (hw : 1 ≤ f.width ∧ f.width ≤ 32) (he : f.key ∉ earlier.map (·.key))
    (hg : k.binding? f.key = none) : FlawedField k earlier f (.unbound f.key k)
  | misbound {g : Binding} (hw : 1 ≤ f.width ∧ f.width ≤ 32) (he : f.key ∉ earlier.map (·.key))
    (hg : k.binding? f.key = some g) (hk : g.kind ≠ f.kind) :
    FlawedField k earlier f (.misbound f.key f.kind g.kind)

/-- What is wrong with a definition by itself. -/
inductive Flawed (d : Definition) : Flaw → Prop
  | unnumbered (hn : ∀ n, ¬ Spells d.name n) : Flawed d .unnumbered
  | misnumbered {n : UInt16} (hn : Spells d.name n) (hne : n ≠ d.id) :
    Flawed d (.misnumbered d.id n)
  | unknownKind (hn : Spells d.name d.id) (hk : ∀ k : Kind, k.id ≠ d.id) :
    Flawed d (.unknownKind d.id)
  | noSources {k : Kind} (hn : Spells d.name d.id) (hk : k.id = d.id) (hs : d.sources = []) :
    Flawed d .noSources
  | field {k : Kind} {earlier later : List RequestField} {f : RequestField} {flaw : Flaw}
    (hn : Spells d.name d.id) (hk : k.id = d.id) (hs : d.sources ≠ [])
    (hl : Scheme.header ++ d.request = earlier ++ f :: later) (he : Sound k earlier)
    (hf : FlawedField k earlier f flaw) : Flawed d flaw

section Name

variable {name : String} {n : UInt16} {cs : List Char}

lemma isDigit_iff {c : Char} : c.isDigit = true ↔ '0' ≤ c ∧ c ≤ '9' := by
  simp [Char.isDigit, Char.le_def]

lemma spelled?_of_toList (hname : name.toList = 't' :: '-' :: cs) : spelled? name =
    if (cs.take 5).length = 5 ∧ ∀ c ∈ cs.take 5, c.isDigit = true then
      if Nat.ofDigitChars 10 (cs.take 5) 0 < UInt16.size then
        some (UInt16.ofNat (Nat.ofDigitChars 10 (cs.take 5) 0))
      else none
    else none := by
  have hdigits : (cs.take 5).all (fun c => '0' ≤ c ∧ c ≤ '9') = true ↔
      ∀ c ∈ cs.take 5, c.isDigit = true := by
    simp [List.all_eq_true, isDigit_iff]
  rw [spelled?, hname]
  simp only [hdigits]
  rfl

lemma spells_iff_of_toList (hname : name.toList = 't' :: '-' :: cs) : Spells name n ↔
    ((cs.take 5).length = 5 ∧ ∀ c ∈ cs.take 5, c.isDigit = true) ∧
      Nat.ofDigitChars 10 (cs.take 5) 0 = n.toNat := by
  constructor
  · rintro ⟨ds, rest, hds, hl, hd, hn⟩
    rw [hname, List.cons_inj_right, List.cons_inj_right] at hds
    have htake : cs.take 5 = ds := by rw [hds, ← hl, List.take_left]
    rw [htake]
    exact ⟨⟨hl, hd⟩, hn⟩
  · rintro ⟨⟨hl, hd⟩, hn⟩
    exact ⟨cs.take 5, cs.drop 5, by rw [hname, List.take_append_drop], hl, hd, hn⟩

lemma spelled?_eq_some_iff : spelled? name = some n ↔ Spells name n := by
  by_cases hname : ∃ cs, name.toList = 't' :: '-' :: cs
  · obtain ⟨cs, hname⟩ := hname
    rw [spelled?_of_toList hname, spells_iff_of_toList hname, Option.ite_none_right_eq_some,
      Option.ite_none_right_eq_some, Option.some_inj]
    refine and_congr_right fun _ => ⟨?_, fun hn => ?_⟩
    · rintro ⟨hlt, rfl⟩
      exact (UInt16.toNat_ofNat_of_lt' hlt).symm
    · rw [hn]
      exact ⟨n.toNat_lt, UInt16.ofNat_toNat⟩
  · constructor
    · intro h
      rw [spelled?] at h
      split at h
      · next cs hcs => exact absurd ⟨cs, hcs⟩ hname
      · cases h
    · rintro ⟨ds, rest, hds, -⟩
      exact absurd ⟨_, hds⟩ hname

lemma spelled?_eq_none_iff : spelled? name = none ↔ ∀ n, ¬ Spells name n := by
  simp only [Option.eq_none_iff_forall_ne_some, Ne, spelled?_eq_some_iff]

end Name

section Fields

variable {k : Kind} {f : RequestField} {fs earlier : List RequestField} {flaw : Flaw}

lemma layoutFlaw?_eq_none_iff_sound : layoutFlaw? k [] fs = none ↔ Sound k fs := by
  rw [layoutFlaw?_eq_none_iff]
  constructor
  · rintro ⟨hf, hd⟩
    exact ⟨fun f hm => ⟨(hf f hm).1, (hf f hm).2.1⟩, hd, fun f hm => (hf f hm).2.2.2⟩
  · rintro ⟨hw, hd, hb⟩
    exact ⟨fun f hm => ⟨(hw f hm).1, (hw f hm).2, by simp, hb f hm⟩, hd⟩

lemma fieldFlaw?_eq_some_iff :
    fieldFlaw? k earlier f = some flaw ↔ FlawedField k earlier f flaw := by
  constructor
  · intro h
    rw [fieldFlaw?] at h
    split at h
    · cases h
      exact .width (by omega)
    next hw =>
    have hw : 1 ≤ f.width ∧ f.width ≤ 32 := by omega
    split at h
    · next he =>
      cases h
      exact .repeated hw (by simpa using he)
    next he =>
    have he : f.key ∉ earlier.map (·.key) := by simpa using he
    split at h
    · next hg =>
      cases h
      exact .unbound hw he hg
    · next g hg =>
      obtain ⟨hk, hf⟩ := Option.ite_none_left_eq_some.mp h
      cases hf
      exact .misbound hw he hg hk
  · intro h
    cases h with
    | width hw => rw [fieldFlaw?, if_pos (by omega)]
    | repeated hw he => rw [fieldFlaw?, if_neg (by omega), if_pos (by simpa using he)]
    | unbound hw he hg => rw [fieldFlaw?, if_neg (by omega), if_neg (by simpa using he), hg]
    | misbound hw he hg hk =>
      rw [fieldFlaw?, if_neg (by omega), if_neg (by simpa using he), hg]
      exact if_neg hk

lemma layoutFlaw?_eq_some_iff : layoutFlaw? k earlier fs = some flaw ↔
    ∃ before f later, fs = before ++ f :: later ∧ layoutFlaw? k earlier before = none ∧
      FlawedField k (earlier ++ before) f flaw := by
  induction fs generalizing earlier with
  | nil => simp [layoutFlaw?]
  | cons f fs ih =>
    rw [layoutFlaw?, Option.or_eq_some_iff, fieldFlaw?_eq_some_iff, ih]
    constructor
    · rintro (hf | ⟨hf, before, g, later, rfl, hn, hg⟩)
      · exact ⟨[], f, fs, rfl, rfl, by rwa [List.append_nil]⟩
      · refine ⟨f :: before, g, later, rfl, ?_, by rwa [List.append_assoc] at hg⟩
        rw [layoutFlaw?, hf, hn]
        rfl
    · rintro ⟨_ | ⟨e, before⟩, g, later, heq, hn, hg⟩
      · cases heq
        exact .inl (by rwa [List.append_nil] at hg)
      · cases heq
        obtain ⟨hf, hn⟩ := Option.or_eq_none_iff.mp hn
        exact .inr ⟨hf, before, g, later, rfl, hn, by rwa [List.append_assoc]⟩

end Fields

variable {d : Definition} {k : Kind} {s : Scheme} {flaw : Flaw}

-- The chain of checks as nested cases.
lemma check_eq (d : Definition) : d.check = (spelled? d.name).elim (.error .unnumbered) fun n =>
    if n = d.id then
      (Kind.ofId? d.id).elim (.error (.unknownKind d.id)) fun k =>
        if d.sources = [] then .error .noSources
        else (layoutFlaw? k [] (Scheme.header ++ d.request)).elim (.ok (d.scheme k)) .error
    else .error (.misnumbered d.id n) := by
  simp only [check, bind, Except.bind, throw, throwThe, MonadExceptOf.throw, pure, Except.pure]
  cases spelled? d.name with
  | none => rfl
  | some n =>
    by_cases hn : n = d.id
    · cases Kind.ofId? d.id with
      | none => simp [hn]
      | some k =>
        by_cases hs : d.sources = []
        · simp [hn, hs]
        · have hl : (d.scheme k).request = Scheme.header ++ d.request := rfl
          cases hf : layoutFlaw? k [] (Scheme.header ++ d.request) <;> simp [hn, hs, hl, hf]
    · simp [hn]

theorem check_eq_ok_iff_valid : d.check = .ok s ↔ ∃ k, d.Valid k ∧ s = d.scheme k := by
  rw [check_eq_ok_iff, spelled?_eq_some_iff]
  constructor
  · rintro ⟨hn, hs, k, hk, hl, rfl⟩
    exact ⟨k, ⟨hn, Kind.ofId?_eq_some_iff.mp hk, hs, layoutFlaw?_eq_none_iff_sound.mp hl⟩, rfl⟩
  · rintro ⟨k, ⟨hn, hk, hs, hl⟩, rfl⟩
    exact ⟨hn, hs, k, Kind.ofId?_eq_some_iff.mpr hk, layoutFlaw?_eq_none_iff_sound.mpr hl, rfl⟩

lemma check_of_flawed (h : d.Flawed flaw) : d.check = .error flaw := by
  rw [check_eq]
  cases h with
  | unnumbered hn => rw [spelled?_eq_none_iff.mpr hn, Option.elim_none]
  | misnumbered hn hd => rw [spelled?_eq_some_iff.mpr hn, Option.elim_some, if_neg hd]
  | unknownKind hn hk =>
    have hnone : Kind.ofId? d.id = none := by
      simp only [Option.eq_none_iff_forall_ne_some, Ne, Kind.ofId?_eq_some_iff]
      exact hk
    rw [spelled?_eq_some_iff.mpr hn, Option.elim_some, if_pos rfl, hnone, Option.elim_none]
  | noSources hn hk hs =>
    rw [spelled?_eq_some_iff.mpr hn, Option.elim_some, if_pos rfl,
      Kind.ofId?_eq_some_iff.mpr hk, Option.elim_some, if_pos hs]
  | field hn hk hs hl he hf =>
    have hflaw := layoutFlaw?_eq_some_iff.mpr
      ⟨_, _, _, hl, layoutFlaw?_eq_none_iff_sound.mpr he, hf⟩
    rw [spelled?_eq_some_iff.mpr hn, Option.elim_some, if_pos rfl,
      Kind.ofId?_eq_some_iff.mpr hk, Option.elim_some, if_neg hs, hflaw, Option.elim_some]

lemma sound_or_flawed (k : Kind) (fs : List RequestField) : Sound k fs ∨
    ∃ earlier f later flaw, fs = earlier ++ f :: later ∧ Sound k earlier ∧
      FlawedField k earlier f flaw := by
  cases hl : layoutFlaw? k [] fs with
  | none => exact .inl (layoutFlaw?_eq_none_iff_sound.mp hl)
  | some flaw =>
    obtain ⟨earlier, f, later, heq, he, hf⟩ := layoutFlaw?_eq_some_iff.mp hl
    exact .inr ⟨earlier, f, later, flaw, heq, layoutFlaw?_eq_none_iff_sound.mp he, hf⟩

lemma valid_or_flawed (d : Definition) : (∃ k, d.Valid k) ∨ ∃ flaw, d.Flawed flaw := by
  by_cases hn : Spells d.name d.id
  · by_cases hk : ∃ k : Kind, k.id = d.id
    · obtain ⟨k, hk⟩ := hk
      by_cases hs : d.sources = []
      · exact .inr ⟨_, .noSources hn hk hs⟩
      rcases sound_or_flawed k (Scheme.header ++ d.request) with
        hl | ⟨earlier, f, later, flaw, heq, he, hf⟩
      · exact .inl ⟨k, hn, hk, hs, hl⟩
      · exact .inr ⟨flaw, .field hn hk hs heq he hf⟩
    · exact .inr ⟨_, .unknownKind hn (not_exists.mp hk)⟩
  · by_cases hm : ∃ n, Spells d.name n
    · obtain ⟨n, hm⟩ := hm
      exact .inr ⟨_, .misnumbered hm fun heq => hn (heq ▸ hm)⟩
    · exact .inr ⟨_, .unnumbered (not_exists.mp hm)⟩

theorem check_eq_error_iff : d.check = .error flaw ↔ d.Flawed flaw := by
  refine ⟨fun h => ?_, check_of_flawed⟩
  rcases valid_or_flawed d with ⟨k, hv⟩ | ⟨found, hf⟩
  · cases h.symm.trans (check_eq_ok_iff_valid.mpr ⟨k, hv, rfl⟩)
  · cases h.symm.trans (check_of_flawed hf)
    exact hf

lemma Valid.not_flawed (h : d.Valid k) : ¬ d.Flawed flaw := by
  intro hf
  cases (check_of_flawed hf).symm.trans (check_eq_ok_iff_valid.mpr ⟨k, h, rfl⟩)

end Definition

end Attestation
