import Mathlib
import Attestation.Hash.Lemmas
import Attestation.Request

/-!
A request seen as the list of its values, in the order in which the bindings of its kind stand. A
binding reads one place of that list and writes no other, so what is written under a key is read
back under it (`read?_write?`) and nothing else changes (`read?_write?_of_ne`).
-/

namespace Attestation

def FieldValue.fieldKind : FieldValue → FieldKind
  | kind _ => .attestationType
  | source _ => .sourceId
  | number _ => .number
  | bytes _ => .bytes

def RequestBody.values : RequestBody → List FieldValue
  | payment f => [.bytes f.id, .number f.blockNumber, .number f.inUtxo, .number f.utxo]
  | balanceDecreasing f => [.bytes f.id, .number f.blockNumber, .number f.inUtxo]
  | blockHeight f => [.number f.blockNumber, .number f.queryWindow]
  | nonexistence f =>
    [.number f.minimalBlockNumber, .number f.deadlineBlockNumber, .number f.deadlineTimestamp,
     .bytes f.destinationAddressHash, .number f.amount, .bytes f.paymentReference]

/-- The values of the fields of a request, the shared ones first. -/
def Request.values (r : Request) : List FieldValue :=
  [.kind r.kind, .source r.source, .bytes (Word.toBytes r.integrityCode)] ++ r.body.values

namespace Binding

def table (k : Kind) : List Binding :=
  header ++ body k

lemma map_get (r : Request) : (table r.kind).map (·.get r) = r.values.map some := by
  rcases r with ⟨s, c, b⟩
  cases b <;> rfl

lemma map_kind (r : Request) : (table r.kind).map (·.kind) = r.values.map FieldValue.fieldKind := by
  rcases r with ⟨s, c, b⟩
  cases b <;> rfl

variable {g : Binding} {r r' : Request} {v : FieldValue} {i : ℕ}

lemma get_eq (hg : (table r.kind)[i]? = some g) : g.get r = r.values[i]? := by
  have h := congrArg (·[i]?) (map_get r)
  simp only [List.getElem?_map, hg, Option.map_some] at h
  cases hv : r.values[i]? with
  | none => simp [hv] at h
  | some v => simpa [hv] using h

lemma set_number {key : String} {read : RequestBody → Option Numeral}
    {write : RequestBody → Numeral → Option RequestBody} :
    (number key read write).set r v = some r' ↔
      ∃ n b, v = .number n ∧ write r.body n = some b ∧ r' = { r with body := b } := by
  cases v <;> simp [number, eq_comm]

lemma set_bytes {key : String} {read : RequestBody → Option Bytes}
    {write : RequestBody → Bytes → Option RequestBody} :
    (bytes key read write).set r v = some r' ↔
      ∃ x b, v = .bytes x ∧ write r.body x = some b ∧ r' = { r with body := b } := by
  cases v <;> simp [bytes, eq_comm]

-- A table has at most six bindings of the body, so an index is one of six or leads out of it.
lemma body_set (hg : (body r.kind)[i]? = some g) (h : g.set r v = some r') :
    ∃ b, r' = { r with body := b } ∧ b.kind = r.body.kind ∧ b.values = r.body.values.set i v := by
  rcases r with ⟨s, c, f | f | f | f⟩ <;> rcases i with _ | _ | _ | _ | _ | _ | i <;> cases hg <;>
  · simp only [set_number, set_bytes, Option.some.injEq] at h
    obtain ⟨x, b, rfl, rfl, rfl⟩ := h
    exact ⟨_, rfl, rfl, rfl⟩

lemma body_accepts (hg : (body r.kind)[i]? = some g) (hv : v.fieldKind = g.kind) :
    ∃ r', g.set r v = some r' := by
  rcases r with ⟨s, c, f | f | f | f⟩ <;> rcases i with _ | _ | _ | _ | _ | _ | i <;> cases hg <;>
    cases v <;> cases hv <;> exact ⟨_, rfl⟩

lemma table_set (hg : (table r.kind)[i]? = some g) (h : g.set r v = some r') :
    r'.kind = r.kind ∧ r'.values = r.values.set i v := by
  rcases i with _ | _ | _ | i
  · cases hg
    cases v <;> simp only [attestationType, reduceCtorEq] at h
    obtain ⟨rfl, hr⟩ := Option.ite_none_right_eq_some.mp h
    cases hr
    exact ⟨rfl, rfl⟩
  · cases hg
    cases v <;> simp only [sourceId, reduceCtorEq, Option.some.injEq] at h
    exact h ▸ ⟨rfl, rfl⟩
  · cases hg
    cases v <;> simp only [messageIntegrityCode, reduceCtorEq] at h
    obtain ⟨c, hc, rfl⟩ := Option.map_eq_some_iff.mp h
    obtain ⟨hb, hc⟩ := Option.ite_none_right_eq_some.mp hc
    cases hc
    refine ⟨rfl, ?_⟩
    simp [Request.values, Request.withIntegrityCode, Word.toBytes_ofBytes hb, Request.kind]
  · obtain ⟨b, rfl, hk, hb⟩ := body_set (i := i) hg h
    refine ⟨hk, ?_⟩
    simp [Request.values, Request.kind, hk, hb]

lemma table_accepts (hg : (table r.kind)[i]? = some g) (hv : v.fieldKind = g.kind)
    (hk : ∀ j, v = .kind j → j = r.kind)
    (hc : g.key = "messageIntegrityCode" → ∀ b, v = .bytes b → b.length = 32) :
    ∃ r', g.set r v = some r' := by
  rcases i with _ | _ | _ | i
  · cases hg
    cases v <;> cases hv
    exact ⟨r, if_pos (hk _ rfl)⟩
  · cases hg
    cases v <;> cases hv
    exact ⟨_, rfl⟩
  · cases hg
    cases v <;> cases hv
    exact ⟨_, congrArg (Option.map r.withIntegrityCode) (if_pos (hc rfl _ rfl))⟩
  · exact body_accepts (i := i) hg hv

lemma exists_index {k : Kind} {key : String} {g : Binding} (hg : k.binding? key = some g) :
    g.key = key ∧ ∃ i : ℕ, (table k)[i]? = some g := by
  refine ⟨by simpa using List.find?_some hg, ?_⟩
  exact List.getElem?_of_mem (l := table k) (List.mem_of_find?_eq_some hg)

end Binding

namespace Request

def read? (r : Request) (key : String) : Option FieldValue :=
  (r.kind.binding? key).bind (·.get r)

def write? (r : Request) (key : String) (v : FieldValue) : Option Request :=
  (r.kind.binding? key).bind (·.set r v)

variable {g : Binding} {r r' : Request} {v : FieldValue} {key key' : String}

lemma exists_read? (hg : r.kind.binding? key = some g) :
    ∃ v, r.read? key = some v ∧ v.fieldKind = g.kind := by
  obtain ⟨-, i, hi⟩ := Binding.exists_index hg
  have hk := congrArg (·[i]?) (Binding.map_kind r)
  simp only [List.getElem?_map, hi, Option.map_some] at hk
  obtain ⟨v, hv, hk⟩ := Option.map_eq_some_iff.mp hk.symm
  exact ⟨v, by simp [read?, hg, Binding.get_eq hi, hv], hk⟩

lemma kind_of_read? {j : Kind} (h : r.read? key = some (.kind j)) : j = r.kind := by
  obtain ⟨g, hg, hv⟩ := Option.bind_eq_some_iff.mp h
  obtain ⟨-, i, hi⟩ := Binding.exists_index hg
  rw [Binding.get_eq hi] at hv
  have hm := List.mem_of_getElem? hv
  rcases r with ⟨s, c, f | f | f | f⟩ <;> simpa [values, RequestBody.values] using hm

lemma exists_write? (hg : r.kind.binding? key = some g) (hv : v.fieldKind = g.kind)
    (hk : ∀ j, v = .kind j → j = r.kind)
    (hc : key = "messageIntegrityCode" → ∀ b, v = .bytes b → b.length = 32) :
    ∃ r', r.write? key v = some r' := by
  obtain ⟨he, i, hi⟩ := Binding.exists_index hg
  obtain ⟨r', hr⟩ := Binding.table_accepts hi hv hk (he ▸ hc)
  exact ⟨r', by simp [write?, hg, hr]⟩

lemma kind_write? (h : r.write? key v = some r') : r'.kind = r.kind := by
  obtain ⟨g, hg, hs⟩ := Option.bind_eq_some_iff.mp h
  obtain ⟨-, i, hi⟩ := Binding.exists_index hg
  exact (Binding.table_set hi hs).1

lemma read?_write? (h : r.write? key v = some r') : r'.read? key = some v := by
  obtain ⟨g, hg, hs⟩ := Option.bind_eq_some_iff.mp h
  obtain ⟨-, i, hi⟩ := Binding.exists_index hg
  obtain ⟨hk, hv⟩ := Binding.table_set hi hs
  rw [← hk] at hg hi
  have hlen : i < r.values.length := by
    have hl := congrArg List.length (Binding.map_get r')
    simp only [List.length_map, hv, List.length_set] at hl
    exact hl ▸ (List.getElem?_eq_some_iff.mp hi).1
  simp [read?, hg, Binding.get_eq hi, hv, hlen]

lemma read?_write?_of_ne (h : r.write? key v = some r') (hne : key' ≠ key) :
    r'.read? key' = r.read? key' := by
  obtain ⟨g, hg, hs⟩ := Option.bind_eq_some_iff.mp h
  obtain ⟨he, i, hi⟩ := Binding.exists_index hg
  obtain ⟨hk, hv⟩ := Binding.table_set hi hs
  rw [read?, read?, hk]
  cases hg' : r.kind.binding? key' with
  | none => rfl
  | some g' =>
    obtain ⟨he', j, hj⟩ := Binding.exists_index hg'
    have hij : i ≠ j := by
      rintro rfl
      rw [hi] at hj
      cases hj
      exact hne (he'.symm.trans he)
    simp [Binding.get_eq hj, Binding.get_eq (hk ▸ hj), hv, List.getElem?_set_ne hij]

end Request

end Attestation
