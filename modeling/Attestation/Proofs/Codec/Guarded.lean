import Mathlib
import Attestation.Proofs.Codec.RoundTrip

/-!
The decoder once more, walking through the bytes by offsets, with every partial step made visible:
it has no answer where a slice leaves the bytes, where more than 32 bytes are taken as a word, or
where a number does not fit the integer of an id. No bytes lead there (`decode?_eq`).
-/

namespace Attestation.Codec.Guarded

def slice? (b : Bytes) (offset width : ℕ) : Option Bytes :=
  if offset + width ≤ b.length then some ((b.drop offset).take width) else none

/-- Whether the bytes fit what the field reads them as. -/
def fits (f : RequestField) (c : Bytes) : Bool :=
  match f.kind with
  | .attestationType => c.length ≤ 32 && Bytes.toNat c < UInt16.size
  | .sourceId => c.length ≤ 32 && Bytes.toNat c < UInt32.size
  | .number => c.length ≤ 32
  | .bytes => true

def fields? (s : Scheme) (b : Bytes) :
    List RequestField → ℕ → Request → Option (Except Error Request)
  | [], _, r => some (.ok r)
  | f :: fs, offset, r => do
    let c ← slice? b offset f.width
    guard (fits f c)
    match decodeField s f c with
    | .error e => some (.error e)
    | .ok v =>
      match (s.kind.binding? f.key).bind (·.set r v) with
      | none => some (.error (.invalidScheme s.title (.undecodable f.key s.kind)))
      | some r' => fields? s b fs (offset + f.width) r'

def decodeBy? (s : Scheme) (b : Bytes) : Option (Except Error Request) :=
  if b.length ≠ s.size then some (.error (.malformedRequest s.size b.length))
  else do
    let read ← fields? s b s.request 0 (.blank s.kind)
    some (read >>= fun r => requireSource s r.source >>= fun _ => .ok r)

def decode? (b : Bytes) : Option (Except Error Request) :=
  match slice? b 0 kindWidth with
  | none => some (.error (.malformedRequest kindWidth b.length))
  | some front => do
    let high ← front[0]?
    let low ← front[1]?
    match Registry.standard.scheme (UInt16.ofNat (256 * high.toNat + low.toNat)) with
    | .error e => some (.error e)
    | .ok s => decodeBy? s b

variable {s : Scheme} {k : Kind} {f : RequestField} {fs : List RequestField} {b c : Bytes}
  {d : Request} {offset : ℕ}

lemma slice?_of_le {width : ℕ} (h : offset + width ≤ b.length) :
    slice? b offset width = some ((b.drop offset).take width) :=
  if_pos h

lemma fields?_eq (hf : ∀ f ∈ fs, ∀ c : Bytes, c.length = f.width → fits f c = true)
    (hb : offset + (fs.map (·.width)).sum ≤ b.length) :
    fields? s b fs offset d = some (decodeFields s fs (b.drop offset) d) := by
  induction fs generalizing offset d with
  | nil => rfl
  | cons f fs ih =>
    rw [List.map_cons, List.sum_cons] at hb
    rw [List.forall_mem_cons] at hf
    have hfit : fits f ((b.drop offset).take f.width) = true := hf.1 _ (by simp; omega)
    rw [fields?, slice?_of_le (by omega), decodeFields]
    simp only [hfit, guard, Option.bind_eq_bind, Option.bind_some, if_true, Option.pure_def]
    cases decodeField s f ((b.drop offset).take f.width) with
    | error e => rfl
    | ok v =>
      simp only [Except.ok_bind]
      generalize (s.kind.binding? f.key).bind (fun g => g.set d v) = e
      cases e with
      | none => rfl
      | some e =>
        have ht : offset + f.width + (fs.map (·.width)).sum ≤ b.length := by omega
        simpa only [List.drop_drop] using ih (d := e) hf.2 ht

lemma fits_scheme (hf : f ∈ k.scheme.request) (hc : c.length = f.width) : fits f c = true := by
  have hw := k.layout.width_le f hf
  have hn := Bytes.toNat_lt c
  have hid : ∀ k : Kind, ∀ f ∈ k.scheme.request, (f.kind = .attestationType → f.width = 2) ∧
      (f.kind = .sourceId → f.width = 4) := by
    intro k
    cases k <;> decide
  obtain ⟨hk, ht⟩ := hid k f hf
  rw [hc] at hn
  cases h : f.kind with
  | attestationType => simpa [fits, h, hc, hk h, UInt16.size] using hn
  | sourceId => simpa [fits, h, hc, ht h, UInt32.size] using hn
  | number => simp [fits, h, hc, hw]
  | bytes => simp [fits, h]

lemma decodeBy?_scheme (k : Kind) (b : Bytes) :
    decodeBy? k.scheme b = some (decodeBy k.scheme b) := by
  by_cases hb : b.length = k.scheme.size
  · have hs : 0 + (k.scheme.request.map (·.width)).sum ≤ b.length := by
      rw [hb, Scheme.size_eq, Nat.zero_add]
    rw [decodeBy?, if_neg (not_not.mpr hb), fields?_eq (fun f hf c => fits_scheme hf) hs, decodeBy,
      if_neg (not_not.mpr hb)]
    rfl
  · rw [decodeBy?, if_pos hb, decodeBy, if_pos hb]
    rfl

lemma decode?_eq (b : Bytes) : decode? b = some (decode b) := by
  rcases b with _ | ⟨x, _ | ⟨y, t⟩⟩
  · rfl
  · rfl
  · have hi : UInt16.ofNat (256 * x.toNat + y.toNat) = leadingId (x :: y :: t) := by
      simp [leadingId, kindWidth, Bytes.toNat]
    have hs : slice? (x :: y :: t) 0 kindWidth = some [x, y] :=
      slice?_of_le (by simp [kindWidth])
    have hd : ¬ (x :: y :: t).length < kindWidth := by simp [kindWidth]
    rw [decode?, hs, decode, if_neg hd, ← leadingId, Registry.scheme_standard_eq]
    simp only [List.getElem?_cons_zero, List.getElem?_cons_succ, Option.bind_eq_bind,
      Option.bind_some, hi, Registry.scheme_standard_eq]
    cases Kind.ofId? (leadingId (x :: y :: t)) with
    | none => rfl
    | some k => exact decodeBy?_scheme k _

end Attestation.Codec.Guarded
