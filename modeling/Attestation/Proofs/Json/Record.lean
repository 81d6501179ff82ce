import Mathlib
import Attestation.Json

/-!
The members of an object by their names. Among members with different names it does not matter where
one stands, nor which members there are besides (`memberOf?_of_perm`), so the fields of a record are
found in any order (`fields?_of_perm`).
-/

namespace Attestation.Json

variable {name : String} {j : Json} {ms extra all : List (String × Json)}

lemma valuesOf_eq_nil (h : ∀ m ∈ extra, m.1 ≠ name) : valuesOf name extra = [] := by
  rw [valuesOf, List.map_eq_nil_iff, List.filter_eq_nil_iff]
  simpa using h

lemma valuesOf_of_mem (hn : (ms.map (·.1)).Nodup) (hm : (name, j) ∈ ms) :
    valuesOf name ms = [j] := by
  induction ms with
  | nil => cases hm
  | cons m ms ih =>
    rw [List.map_cons, List.nodup_cons] at hn
    cases hm with
    | head =>
      have htail : valuesOf name ms = [] := by
        apply valuesOf_eq_nil
        intro x hx hname
        exact hn.1 (List.mem_map.mpr ⟨x, hx, hname⟩)
      rw [valuesOf] at htail ⊢
      rw [List.filter_cons_of_pos (by simp), List.map_cons, htail]
    | tail _ hm =>
      have hname : name ∈ ms.map (·.1) := List.mem_map_of_mem hm
      have hne : m.1 ≠ name := fun h => hn.1 (h ▸ hname)
      have ih := ih hn.2 hm
      rw [valuesOf] at ih ⊢
      rwa [List.filter_cons_of_neg (by simpa using hne)]

theorem memberOf?_of_perm (hn : (ms.map (·.1)).Nodup)
    (hnew : ∀ m ∈ extra, m.1 ∉ ms.map (·.1)) (hall : all.Perm (ms ++ extra))
    (hm : (name, j) ∈ ms) : memberOf? all name = some (some j) := by
  have hname : name ∈ ms.map (·.1) := List.mem_map_of_mem hm
  have hextra : valuesOf name extra = [] := by
    apply valuesOf_eq_nil
    rintro m hx rfl
    exact hnew m hx hname
  have hv : valuesOf name (ms ++ extra) = [j] := by
    have h := valuesOf_of_mem hn hm
    rw [valuesOf] at h hextra ⊢
    rw [List.filter_append, List.map_append, h, hextra, List.append_nil]
  have hp : (valuesOf name all).Perm (valuesOf name (ms ++ extra)) := (hall.filter _).map _
  rw [hv, List.perm_singleton] at hp
  rw [memberOf?, hp]

lemma mapM_eq_some {α β : Type} {f : α → Option β} {g : α → β} {xs : List α}
    (h : ∀ x ∈ xs, f x = some (g x)) : xs.mapM f = some (xs.map g) := by
  induction xs with
  | nil => rfl
  | cons x xs ih =>
    rw [List.mapM_cons, h x List.mem_cons_self, ih fun y hy => h y (List.mem_cons_of_mem x hy)]
    rfl

theorem fields?_of_perm (names : List String) (hnames : ms.map (·.1) = names) (hn : names.Nodup)
    (hnew : ∀ m ∈ extra, m.1 ∉ names) (hall : all.Perm (ms ++ extra)) (required : Nat) :
    (object all).fields? names required = some (ms.map fun m => some m.2) := by
  subst hnames
  rw [fields?, List.mapM_map]
  exact mapM_eq_some fun m hm => memberOf?_of_perm hn hnew hall hm

end Attestation.Json
