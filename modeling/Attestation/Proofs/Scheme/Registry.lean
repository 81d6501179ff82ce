import Mathlib
import Attestation.Proofs.Scheme.Valid

/-!
Registries made from lists of definitions. Main statement: a list makes a registry exactly when each
of its definitions is valid and no two have one id; the registry is the same for every order of the
list, and otherwise the error names the first definition that is flawed or repeats an id
(`load_exact`).
-/

namespace Attestation

/-- All that a scheme says, its kind by the id. -/
def Scheme.content (s : Scheme) :
    UInt16 × String × List Source × List RequestField × List ResponseField :=
  (s.kind.id, s.title, s.sources, s.request, s.response)

/-- What the scheme of a definition says: the shared fields stand in front. -/
def Definition.content (d : Definition) :
    UInt16 × String × List Source × List RequestField × List ResponseField :=
  (d.id, d.title, d.sources, Scheme.header ++ d.request, d.response)

lemma Scheme.content_injective : Function.Injective content := by
  rintro ⟨j, _⟩ ⟨k, _⟩ h
  simp only [content, Prod.mk.injEq] at h
  obtain ⟨hi, rfl, rfl, rfl, rfl⟩ := h
  have hk : some j = some k := by rw [← Kind.ofId?_id j, hi, Kind.ofId?_id]
  cases hk
  rfl

lemma Definition.Valid.content_scheme {d : Definition} {k : Kind} (h : d.Valid k) :
    (d.scheme k).content = d.content := by
  rw [content, ← h.kind]
  rfl

namespace Registry

/-- Each definition is valid and no two have one id. -/
structure Loadable (ds : List Definition) : Prop where
  valid : ∀ d ∈ ds, ∃ k, d.Valid k
  distinct : (ds.map (·.id)).Nodup

/-- The registry has one scheme for each definition and no others, in ascending order of ids. -/
structure Holds (r : Registry) (ds : List Definition) : Prop where
  contents : (r.schemes.map Scheme.content).Perm (ds.map Definition.content)
  ascending : r.schemes.Pairwise (·.kind.id < ·.kind.id)

/-- Why a definition is refused behind others: it is not valid by itself, or one of them has its
id. -/
inductive Refused (earlier : List Definition) (d : Definition) : Flaw → Prop
  | flawed {flaw : Flaw} (hv : ∀ k, ¬ d.Valid k) (hf : d.Flawed flaw) : Refused earlier d flaw
  | repeated {k : Kind} (hv : d.Valid k) (hi : d.id ∈ earlier.map (·.id)) :
    Refused earlier d (.repeatedId d.id)

variable {r r' : Registry} {ds ds' earlier : List Definition} {d : Definition} {k : Kind}
  {s : Scheme} {ss : List Scheme} {e : Error} {id : UInt16}

lemma perm_place (s : Scheme) (ss : List Scheme) : (place s ss).Perm (s :: ss) := by
  induction ss with
  | nil => rfl
  | cons t ss ih =>
    rw [place]
    split
    · rfl
    · exact (ih.cons t).trans (.swap s t ss)

lemma ascending_place (h : ss.Pairwise (·.kind.id < ·.kind.id))
    (hs : ∀ t ∈ ss, t.kind.id ≠ s.kind.id) : (place s ss).Pairwise (·.kind.id < ·.kind.id) := by
  induction ss with
  | nil => exact List.pairwise_singleton _ s
  | cons t ss ih =>
    obtain ⟨ht, hss⟩ := List.pairwise_cons.mp h
    rw [List.forall_mem_cons] at hs
    rw [place]
    split
    · next hlt =>
      refine List.pairwise_cons.mpr ⟨List.forall_mem_cons.mpr ⟨hlt, fun u hu => ?_⟩, h⟩
      exact UInt16.lt_trans hlt (ht u hu)
    · next hlt =>
      refine List.pairwise_cons.mpr ⟨fun u hu => ?_, ih hss hs.2⟩
      rcases List.mem_cons.mp ((perm_place s ss).mem_iff.mp hu) with rfl | hu
      · exact UInt16.lt_of_le_of_ne (UInt16.not_lt.mp hlt) hs.1
      · exact ht u hu

namespace Holds

lemma perm_ids (h : r.Holds ds) : (r.schemes.map (·.kind.id)).Perm (ds.map (·.id)) := by
  have hp := h.contents.map Prod.fst
  rwa [List.map_map, List.map_map] at hp

lemma mem_iff (h : r.Holds ds) : s ∈ r.schemes ↔ ∃ d ∈ ds, s.content = d.content := by
  rw [← List.mem_map_of_injective Scheme.content_injective, h.contents.mem_iff, List.mem_map]
  simp only [eq_comm]

lemma congr (h : r.Holds ds) (hp : ds'.Perm ds) : r.Holds ds' :=
  ⟨h.contents.trans (hp.map _).symm, h.ascending⟩

-- Ascending order leaves one list with the given schemes.
lemma unique (h : r.Holds ds) (h' : r'.Holds ds) : r = r' := by
  have hp : r.schemes.Perm r'.schemes :=
    (List.map_perm_map_iff Scheme.content_injective).mp (h.contents.trans h'.contents.symm)
  have hs : r.schemes = r'.schemes :=
    hp.eq_of_pairwise (fun a b _ _ hab hba => absurd hba (UInt16.lt_asymm hab))
      h.ascending h'.ascending
  rw [← mk.injEq] at hs
  exact hs

lemma add (h : r.Holds ds) (hv : d.Valid k) (hi : d.id ∉ ds.map (·.id)) :
    Holds ⟨place (d.scheme k) r.schemes⟩ (ds ++ [d]) := by
  constructor
  · rw [List.map_append, List.map_singleton, ← hv.content_scheme]
    have hp := (perm_place (d.scheme k) r.schemes).map Scheme.content
    exact hp.trans ((h.contents.cons _).trans (List.perm_append_singleton _ _).symm)
  · refine ascending_place h.ascending fun t ht heq => hi ?_
    rw [← h.perm_ids.mem_iff, ← hv.kind]
    exact heq ▸ List.mem_map_of_mem ht

lemma find?_eq_some_iff (h : r.Holds ds) :
    r.schemes.find? (·.kind.id == id) = some s ↔ s ∈ r.schemes ∧ s.kind.id = id := by
  constructor
  · intro hs
    exact ⟨List.mem_of_find?_eq_some hs, by simpa using List.find?_some hs⟩
  · rintro ⟨hm, hi⟩
    have hd : (r.schemes.map (·.kind.id)).Nodup :=
      List.pairwise_map.mpr (h.ascending.imp fun hlt => UInt16.ne_of_lt hlt)
    cases hf : r.schemes.find? (·.kind.id == id) with
    | none => exact absurd hi (by simpa using List.find?_eq_none.mp hf s hm)
    | some t =>
      have ht : t.kind.id = id := by simpa using List.find?_some hf
      rw [List.inj_on_of_nodup_map hd (List.mem_of_find?_eq_some hf) hm (ht.trans hi.symm)]

lemma scheme_eq_ok_iff (h : r.Holds ds) :
    r.scheme id = .ok s ↔ ∃ d ∈ ds, d.id = id ∧ s.content = d.content := by
  have hs : r.scheme id = .ok s ↔ r.schemes.find? (·.kind.id == id) = some s := by
    rw [scheme]
    cases r.schemes.find? (·.kind.id == id) <;> simp
  rw [hs, h.find?_eq_some_iff, h.mem_iff]
  constructor
  · rintro ⟨⟨d, hd, heq⟩, rfl⟩
    exact ⟨d, hd, (congrArg Prod.fst heq).symm, heq⟩
  · rintro ⟨d, hd, rfl, heq⟩
    exact ⟨⟨d, hd, heq⟩, congrArg Prod.fst heq⟩

lemma scheme_eq_error_iff (h : r.Holds ds) :
    r.scheme id = .error e ↔ (∀ d ∈ ds, d.id ≠ id) ∧ e = .unsupportedKind id := by
  have hn : r.schemes.find? (·.kind.id == id) = none ↔ ∀ d ∈ ds, d.id ≠ id := by
    have hp := h.perm_ids.mem_iff (a := id)
    simp only [List.mem_map] at hp
    simp only [List.find?_eq_none, beq_iff_eq]
    grind
  rw [← hn, scheme]
  cases r.schemes.find? (·.kind.id == id) <;> simp [eq_comm]

end Holds

lemma add_of_valid (h : r.Holds ds) (hv : d.Valid k) : r.add d =
    if d.id ∈ ds.map (·.id) then .error (.invalidScheme d.name (.repeatedId d.id))
    else .ok ⟨place (d.scheme k) r.schemes⟩ := by
  have hi : r.schemes.any (·.kind.id == d.id) = true ↔ d.id ∈ ds.map (·.id) := by
    rw [← h.perm_ids.mem_iff]
    simp
  rw [add, Definition.check_eq_ok_iff_valid.mpr ⟨k, hv, rfl⟩]
  simp only [hi]

lemma add_of_refused {flaw : Flaw} (h : r.Holds ds) (hd : Refused ds d flaw) :
    r.add d = .error (.invalidScheme d.name flaw) := by
  cases hd with
  | flawed _ hf => rw [add, Definition.check_of_flawed hf]
  | repeated hv hi => rw [add_of_valid h hv, if_pos hi]

lemma accepted_or_refused (ds : List Definition) (d : Definition) :
    (∃ k, d.Valid k ∧ d.id ∉ ds.map (·.id)) ∨ ∃ flaw, Refused ds d flaw := by
  rcases d.valid_or_flawed with ⟨k, hv⟩ | ⟨flaw, hf⟩
  · by_cases hi : d.id ∈ ds.map (·.id)
    · exact .inr ⟨_, .repeated hv hi⟩
    · exact .inl ⟨k, hv, hi⟩
  · exact .inr ⟨flaw, .flawed (fun k hv => hv.not_flawed hf) hf⟩

lemma load_append (ds ds' : List Definition) : load (ds ++ ds') = load ds >>= (ds'.foldlM add ·) :=
  List.foldlM_append

lemma loadable_append_iff : Loadable (ds ++ [d]) ↔
    Loadable ds ∧ (∃ k, d.Valid k) ∧ d.id ∉ ds.map (·.id) := by
  have hd : ((ds ++ [d]).map (·.id)).Nodup ↔ d.id ∉ ds.map (·.id) ∧ (ds.map (·.id)).Nodup := by
    rw [List.map_append, List.map_singleton, ← List.concat_eq_append, List.nodup_concat]
  have hv : (∀ c ∈ ds ++ [d], ∃ k, c.Valid k) ↔ (∀ c ∈ ds, ∃ k, c.Valid k) ∧ ∃ k, d.Valid k := by
    rw [List.forall_mem_append, List.forall_mem_singleton]
  constructor
  · rintro ⟨hvalid, hdistinct⟩
    exact ⟨⟨(hv.mp hvalid).1, (hd.mp hdistinct).2⟩, (hv.mp hvalid).2, (hd.mp hdistinct).1⟩
  · rintro ⟨⟨hvalid, hdistinct⟩, hk, hi⟩
    exact ⟨hv.mpr ⟨hvalid, hk⟩, hd.mpr ⟨hi, hdistinct⟩⟩

lemma load_of_loadable (h : Loadable ds) : ∃ r, load ds = .ok r ∧ r.Holds ds := by
  induction ds using List.reverseRecOn with
  | nil => exact ⟨empty, rfl, .nil, .nil⟩
  | append_singleton ds d ih =>
    obtain ⟨hds, ⟨k, hv⟩, hi⟩ := loadable_append_iff.mp h
    obtain ⟨r, hr, hh⟩ := ih hds
    refine ⟨_, ?_, hh.add hv hi⟩
    rw [load_append, hr, Except.ok_bind, List.foldlM_cons, add_of_valid hh hv, if_neg hi]
    rfl

lemma load_of_refused {later : List Definition} {flaw : Flaw} (h : Loadable earlier)
    (hd : Refused earlier d flaw) :
    load (earlier ++ d :: later) = .error (.invalidScheme d.name flaw) := by
  obtain ⟨r, hr, hh⟩ := load_of_loadable h
  rw [load_append, hr, Except.ok_bind, List.foldlM_cons, add_of_refused hh hd]
  rfl

lemma loadable_or_refused (ds : List Definition) : Loadable ds ∨
    ∃ earlier d later flaw, ds = earlier ++ d :: later ∧ Loadable earlier ∧
      Refused earlier d flaw := by
  induction ds using List.reverseRecOn with
  | nil => exact .inl ⟨List.forall_mem_nil _, .nil⟩
  | append_singleton ds d ih =>
    rcases ih with hds | ⟨earlier, c, later, flaw, rfl, he, hc⟩
    · rcases accepted_or_refused ds d with ⟨k, hv, hi⟩ | ⟨flaw, hd⟩
      · exact .inl (loadable_append_iff.mpr ⟨hds, ⟨k, hv⟩, hi⟩)
      · exact .inr ⟨ds, d, [], flaw, rfl, hds, hd⟩
    · exact .inr ⟨earlier, c, later ++ [d], flaw, by simp, he, hc⟩

lemma Loadable.congr (h : Loadable ds) (hp : ds'.Perm ds) : Loadable ds' where
  valid d hd := h.valid d (hp.mem_iff.mp hd)
  distinct := (hp.map _).nodup_iff.mpr h.distinct

lemma load_eq_ok_iff : load ds = .ok r ↔ Loadable ds ∧ r.Holds ds := by
  constructor
  · intro h
    rcases loadable_or_refused ds with hds | ⟨earlier, d, later, flaw, rfl, he, hd⟩
    · obtain ⟨r', hr, hh⟩ := load_of_loadable hds
      cases hr.symm.trans h
      exact ⟨hds, hh⟩
    · cases (load_of_refused he hd).symm.trans h
  · rintro ⟨hds, hh⟩
    obtain ⟨r', hr, hh'⟩ := load_of_loadable hds
    rw [hr, hh'.unique hh]

theorem load_exact (ds : List Definition) :
    ((∃ r, load ds = .ok r) ↔ Loadable ds) ∧
    (∀ r, load ds = .ok r → r.Holds ds ∧
      (∀ id s, r.scheme id = .ok s ↔ ∃ d ∈ ds, d.id = id ∧ s.content = d.content) ∧
      (∀ id e, r.scheme id = .error e ↔ (∀ d ∈ ds, d.id ≠ id) ∧ e = .unsupportedKind id) ∧
      ∀ ds', ds'.Perm ds → load ds' = .ok r) ∧
    ∀ e, load ds = .error e ↔ ∃ earlier d later flaw, ds = earlier ++ d :: later ∧
      Loadable earlier ∧ Refused earlier d flaw ∧ e = .invalidScheme d.name flaw := by
  refine ⟨⟨?_, ?_⟩, fun r h => ?_, fun e => ⟨fun h => ?_, ?_⟩⟩
  · rintro ⟨r, h⟩
    exact (load_eq_ok_iff.mp h).1
  · intro h
    obtain ⟨r, hr, -⟩ := load_of_loadable h
    exact ⟨r, hr⟩
  · obtain ⟨hds, hh⟩ := load_eq_ok_iff.mp h
    exact ⟨hh, fun _ _ => hh.scheme_eq_ok_iff, fun _ _ => hh.scheme_eq_error_iff,
      fun ds' hp => load_eq_ok_iff.mpr ⟨hds.congr hp, hh.congr hp⟩⟩
  · rcases loadable_or_refused ds with hds | ⟨earlier, d, later, flaw, rfl, he, hd⟩
    · obtain ⟨r, hr, -⟩ := load_of_loadable hds
      cases hr.symm.trans h
    · cases (load_of_refused he hd).symm.trans h
      exact ⟨earlier, d, later, flaw, rfl, he, hd, rfl⟩
  · rintro ⟨earlier, d, later, flaw, rfl, he, hd, rfl⟩
    exact load_of_refused he hd

-- The second definition has too short a number; the third would repeat the id of the first.
example : load [.payment, { Definition.nonexistence with name := "t-0004-short" }, .payment] =
    .error (.invalidScheme "t-0004-short" .unnumbered) := by
  rfl

end Registry

end Attestation
