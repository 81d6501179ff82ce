import Mathlib
import Attestation.Json.Format
import Attestation.Proofs.Json.Token

/-!
JSON is read as it was written. The text of a value is taken off the front of any text that goes on
as JSON may (`Reads`), by the reader of values (`reads_value`) as by that of a shape
(`reads_of_fits`); arrays and objects are enclosed sequences of such texts (`enclosed_intercalate`).
-/

namespace Attestation.Json

open Reader

/-- The text of a value. -/
def chars (j : Json) : List Char :=
  j.compact.toList

def memberChars (m : String × Json) : List Char :=
  '"' :: m.1.toList.flatMap Printer.escape ++ '"' :: ':' :: m.2.chars

lemma length_le_memberChars (m : String × Json) : m.2.chars.length ≤ (memberChars m).length := by
  simp only [memberChars, List.length_cons, List.length_append]
  omega

lemma toList_quote (s : String) :
    (Printer.quote s).toList = '"' :: s.toList.flatMap Printer.escape ++ ['"'] :=
  String.toList_ofList

lemma toList_items (xs : List Json) : (Printer.items xs).map String.toList = xs.map chars := by
  induction xs with
  | nil => rfl
  | cons x xs ih => rw [Printer.items, List.map_cons, ih]; rfl

lemma toList_members (ms : List (String × Json)) :
    (Printer.members ms).map String.toList = ms.map memberChars := by
  induction ms with
  | nil => rfl
  | cons m ms ih =>
    rw [Printer.members, List.map_cons, ih, List.map_cons]
    simp [memberChars, toList_quote, chars, compact]

lemma chars_null : null.chars = ['n', 'u', 'l', 'l'] :=
  rfl

lemma chars_true : (bool true).chars = ['t', 'r', 'u', 'e'] :=
  rfl

lemma chars_false : (bool false).chars = ['f', 'a', 'l', 's', 'e'] :=
  rfl

lemma chars_string (s : String) :
    (string s).chars = '"' :: s.toList.flatMap Printer.escape ++ ['"'] :=
  toList_quote s

lemma chars_array (xs : List Json) :
    (array xs).chars = '[' :: [','].intercalate (xs.map chars) ++ [']'] := by
  rw [chars, compact, Printer.element, Printer.commas]
  simp [String.toList_intercalate, toList_items]

lemma chars_object (ms : List (String × Json)) :
    (object ms).chars = '\x7b' :: [','].intercalate (ms.map memberChars) ++ ['\x7d'] := by
  rw [chars, compact, Printer.element, Printer.commas]
  simp [String.toList_intercalate, toList_members]

lemma chars_whole (negative : Bool) (n : Nat) : (number (.whole negative n)).chars =
    (if negative then ['-'] else []) ++ Nat.toDigits 10 n := by
  rw [chars, compact, Printer.element, Printer.number]
  cases negative <;> simp

/-- A reading takes this text off the front, whatever may stand behind it, for this value. -/
def Reads {α : Type} (read : Reading α) (text : List Char) (a : α) : Prop :=
  ∀ rest, Delimited rest → read (text ++ rest) = some (a, rest)

/-- The texts of values begin with neither a blank nor a closing bracket. -/
def Solid (text : List Char) : Prop :=
  ∃ c cs, text = c :: cs ∧ isBlank c = false ∧ c ≠ ']' ∧ c ≠ '\x7d'

lemma skip_solid {text : List Char} (h : Solid text) (rest : List Char) :
    skip (text ++ rest) = text ++ rest := by
  obtain ⟨c, cs, rfl, hc, -⟩ := h
  simp [skip, hc]

lemma Solid.append {text : List Char} (h : Solid text) (rest : List Char) :
    Solid (text ++ rest) := by
  obtain ⟨c, cs, rfl, hc⟩ := h
  exact ⟨c, cs ++ rest, rfl, hc⟩

lemma Solid.intercalate {text : List Char} (h : Solid text) (sep : List Char)
    (texts : List (List Char)) : Solid (sep.intercalate (text :: texts)) := by
  cases texts with
  | nil => rwa [List.intercalate_singleton]
  | cons t ts => rw [List.intercalate_cons_cons]; exact (h.append _).append _

lemma solid_member (m : String × Json) : Solid (memberChars m) :=
  ⟨'"', _, rfl, rfl, by decide, by decide⟩

section Sequences

variable {α β : Type} {read : Reading α} {text : β → List Char} {value : β → α} {close : Char}

lemma items_intercalate (hclose : close = ']' ∨ close = '\x7d') {xs : List β} (hne : xs ≠ [])
    (h : ∀ x ∈ xs, Reads read (text x) (value x)) {limit : Nat} (hl : xs.length ≤ limit)
    (rest : List Char) :
    items close read limit ([','].intercalate (xs.map text) ++ close :: rest) =
      some (xs.map value, rest) := by
  induction xs generalizing limit with
  | nil => exact absurd rfl hne
  | cons x xs ih =>
    obtain ⟨n, rfl⟩ : ∃ n, limit = n + 1 :=
      Nat.exists_eq_add_one.mpr (Nat.lt_of_lt_of_le (by simp) hl)
    have hx := h x List.mem_cons_self
    cases xs with
    | nil =>
      have hend : Delimited (close :: rest) := by
        rcases hclose with rfl | rfl
        · exact .bracket rest
        · exact .brace rest
      rw [List.map_singleton, List.intercalate_singleton, items, hx _ hend]
      rcases hclose with rfl | rfl <;> simp [skip, isBlank]
    | cons y ys =>
      have hrest := ih (by simp) (fun z hz => h z (List.mem_cons_of_mem x hz))
        (Nat.le_of_succ_le_succ hl)
      rw [List.map_cons] at hrest ⊢
      rw [List.map_cons, List.intercalate_cons_cons, List.append_assoc, List.append_assoc, items,
        List.singleton_append, hx _ (.comma _)]
      simp [skip, isBlank, hrest]

lemma length_le_intercalate {xs : List β} {x : β} (hx : x ∈ xs) :
    (text x).length ≤ ([','].intercalate (xs.map text)).length := by
  induction xs with
  | nil => cases hx
  | cons y ys ih =>
    cases ys with
    | nil => rw [List.mem_singleton.mp hx, List.map_singleton, List.intercalate_singleton]
    | cons z zs =>
      rw [List.map_cons, List.map_cons, List.intercalate_cons_cons, ← List.map_cons,
        List.length_append, List.length_append]
      cases hx with
      | head => omega
      | tail _ hx =>
        have := ih hx
        omega

lemma count_le_intercalate {xs : List β} (hs : ∀ x ∈ xs, Solid (text x)) :
    xs.length ≤ ([','].intercalate (xs.map text)).length := by
  induction xs with
  | nil => exact Nat.zero_le _
  | cons y ys ih =>
    have ih := ih fun x hx => hs x (List.mem_cons_of_mem y hx)
    obtain ⟨c, cs, hc, -⟩ := hs y List.mem_cons_self
    cases ys with
    | nil => simp [hc]
    | cons z zs =>
      rw [List.map_cons, List.map_cons, List.intercalate_cons_cons, ← List.map_cons, hc,
        List.length_append, List.length_append]
      simp only [List.length_cons, List.length_nil] at ih ⊢
      omega

lemma enclosed_intercalate (hclose : close = ']' ∨ close = '\x7d') {xs : List β}
    (hs : ∀ x ∈ xs, Solid (text x)) {limit : Nat}
    (hl : ([','].intercalate (xs.map text)).length ≤ limit)
    (h : ∀ x ∈ xs, (text x).length ≤ limit → Reads read (text x) (value x)) (rest : List Char) :
    enclosed limit close read ([','].intercalate (xs.map text) ++ close :: rest) =
      some (xs.map value, rest) := by
  have hreads : ∀ x ∈ xs, Reads read (text x) (value x) := fun x hx =>
    h x hx ((length_le_intercalate hx).trans hl)
  cases xs with
  | nil => rcases hclose with rfl | rfl <;> simp [enclosed, skip, isBlank]
  | cons x xs =>
    have hitems := items_intercalate hclose (by simp) hreads
      ((count_le_intercalate hs).trans hl) rest
    have hsolid := (hs x List.mem_cons_self).intercalate [','] (xs.map text)
    rw [List.map_cons] at hitems
    rw [enclosed, List.map_cons, skip_solid hsolid]
    obtain ⟨c, cs, hc, -, hbracket, hbrace⟩ := hsolid
    have hne : c ≠ close := by
      rcases hclose with rfl | rfl
      · exact hbracket
      · exact hbrace
    rw [hc, List.cons_append] at hitems ⊢
    simp only [if_neg hne]
    exact hitems

lemma reads_member {read : String → Reading α} {m : String × Json} {a : α}
    (h : Reads (read m.1) m.2.chars a) : Reads (member read) (memberChars m) (m.1, a) := by
  intro rest hrest
  have htext := text_quoted [] m.1.toList (':' :: (m.2.chars ++ rest))
  rw [member, memberChars]
  simp [skip, isBlank, htext, h rest hrest]

end Sequences

/-- A value that is read as it is written, with so many arrays and objects around one another at
most. Only floats may be read with other digits than they had. -/
inductive Legible : Nat → Json → Prop
  | null {depth : Nat} : Legible depth null
  | bool {depth : Nat} (b : Bool) : Legible depth (bool b)
  | number {depth : Nat} {negative : Bool} {n : Nat}
    (h : (JsonNumber.whole negative n).isBounded = true) :
    Legible depth (number (.whole negative n))
  | string {depth : Nat} (s : String) : Legible depth (string s)
  | array {depth : Nat} {xs : List Json} (h : ∀ x ∈ xs, Legible depth x) :
    Legible (depth + 1) (array xs)
  | object {depth : Nat} {ms : List (String × Json)} (h : ∀ m ∈ ms, Legible depth m.2) :
    Legible (depth + 1) (object ms)

variable {j : Json} {depth limit : Nat}

lemma ne_of_isDigit {c d : Char} (hc : c.isDigit = true) (hd : d.isDigit = false) : c ≠ d := by
  rintro rfl
  exact absurd (hc.symm.trans hd) (by decide)

lemma exists_digit (n : Nat) : ∃ c cs, Nat.toDigits 10 n = c :: cs ∧ c.isDigit = true := by
  obtain ⟨c, cs, hc⟩ := List.exists_cons_of_ne_nil (Nat.toDigits_ne_nil (n := n) (b := 10))
  exact ⟨c, cs, hc, Nat.isDigit_of_mem_toDigits (by decide) le_rfl (hc ▸ List.mem_cons_self)⟩

lemma isBlank_of_isDigit {c : Char} (hc : c.isDigit = true) : isBlank c = false := by
  simp [isBlank, ne_of_isDigit hc]

/-- Only null begins as null does. -/
lemma Legible.exists_head (h : Legible depth j) : ∃ c cs, j.chars = c :: cs ∧
    (isBlank c = false ∧ c ≠ ']' ∧ c ≠ '\x7d') ∧ (j ≠ .null → c ≠ 'n') := by
  cases h with
  | null => exact ⟨'n', _, rfl, by decide, fun hj => absurd rfl hj⟩
  | bool b => cases b <;> exact ⟨_, _, rfl, by decide, fun _ => by decide⟩
  | @number _ negative n _ =>
    rw [chars_whole]
    cases negative with
    | true => exact ⟨'-', _, rfl, by decide, fun _ => by decide⟩
    | false =>
      obtain ⟨c, cs, hn, hc⟩ := exists_digit n
      exact ⟨c, cs, hn, ⟨isBlank_of_isDigit hc, ne_of_isDigit hc rfl, ne_of_isDigit hc rfl⟩,
        fun _ => ne_of_isDigit hc rfl⟩
  | string s => exact ⟨'"', _, chars_string s, by decide, fun _ => by decide⟩
  | array h => exact ⟨'[', _, chars_array _, by decide, fun _ => by decide⟩
  | object h => exact ⟨'\x7b', _, chars_object _, by decide, fun _ => by decide⟩

lemma Legible.solid (h : Legible depth j) : Solid j.chars := by
  obtain ⟨c, cs, hc, hsolid, -⟩ := h.exists_head
  exact ⟨c, cs, hc, hsolid⟩

lemma plain_of_isDigit {c : Char} (hc : c.isDigit = true) (r : List Char) :
    plain (c :: r) = (Reader.number false (c :: r)).map fun (n, r) => (.number n, r) := by
  unfold plain
  split
  case h_5 => rfl
  all_goals next h => exact absurd (List.head_eq_of_cons_eq h) (ne_of_isDigit hc rfl)

lemma value_of_isDigit {c : Char} (hc : c.isDigit = true) (r : List Char) :
    Reader.value limit depth (c :: r) = (plain (c :: r)).filter (isBounded ·.1) := by
  have hs : skip (c :: r) = c :: r := by simp [skip, isBlank_of_isDigit hc]
  rw [Reader.value.eq_def]
  simp only [hs]
  split
  case h_4 => rfl
  all_goals next h => exact absurd (List.head_eq_of_cons_eq h) (ne_of_isDigit hc rfl)

lemma value_whole (negative : Bool) (n : Nat) {rest : List Char} (hrest : Delimited rest) :
    Reader.value limit depth ((number (.whole negative n)).chars ++ rest) =
      (some (number (.whole negative n), rest)).filter (isBounded ·.1) := by
  rw [chars_whole, List.append_assoc]
  cases negative with
  | true =>
    have hn := number_toDigits true n hrest
    rw [Reader.value.eq_def]
    simp [skip, isBlank, plain, hn]
  | false =>
    have hn := number_toDigits false n hrest
    obtain ⟨c, cs, hc, hdigit⟩ := exists_digit n
    rw [hc] at hn ⊢
    simp only [List.cons_append, List.nil_append, Bool.false_eq_true, if_false] at hn ⊢
    rw [value_of_isDigit hdigit, plain_of_isDigit hdigit, hn]
    rfl

/-- A limit on the number of items is no hindrance where it is one on the length of the text. -/
theorem reads_value (h : Legible depth j) (hl : j.chars.length ≤ limit) :
    Reads (Reader.value limit depth) j.chars j := by
  induction h with
  | null =>
    intro rest _
    rw [chars_null, Reader.value.eq_def]
    simp [skip, isBlank, plain, isBounded]
  | bool b =>
    intro rest _
    rw [Reader.value.eq_def]
    cases b with
    | false => simp [chars_false, skip, isBlank, plain, isBounded]
    | true => simp [chars_true, skip, isBlank, plain, isBounded]
  | number h =>
    intro rest hrest
    rw [value_whole _ _ hrest]
    exact if_pos h
  | string s =>
    intro rest _
    have ht := text_quoted [] s.toList rest
    rw [chars_string, Reader.value.eq_def]
    simp [skip, isBlank, ht]
  | @array depth xs h ih =>
    intro rest _
    rw [chars_array, List.length_append, List.length_cons] at hl
    have hxs : enclosed limit ']' (Reader.value limit depth)
        ([','].intercalate (xs.map chars) ++ ']' :: rest) = some (xs.map id, rest) :=
      enclosed_intercalate (.inl rfl) (fun x hx => (h x hx).solid) (by omega) ih rest
    rw [chars_array, Reader.value.eq_def]
    simp [skip, isBlank, hxs]
  | @object depth ms h ih =>
    intro rest _
    rw [chars_object, List.length_append, List.length_cons] at hl
    have hms : enclosed limit '\x7d' (member fun _ => Reader.value limit depth)
        ([','].intercalate (ms.map memberChars) ++ '\x7d' :: rest) = some (ms.map id, rest) := by
      refine enclosed_intercalate (.inr rfl) (fun m _ => solid_member m) (by omega) ?_ rest
      intro m hm hlm
      exact reads_member (ih m hm ((length_le_memberChars m).trans hlm))
    rw [chars_object, Reader.value.eq_def]
    simp [skip, isBlank, hms]

/-- A value that is of a shape as it is written. -/
inductive Shape.Fits : Shape → Nat → Json → Prop
  | value {depth : Nat} {j : Json} (h : Legible depth j) : Fits .value depth j
  | hash {depth : Nat} (s : String) : Fits .hash depth (string s)
  | absent {shape : Shape} {depth : Nat} : Fits (.option shape) depth null
  | present {shape : Shape} {depth : Nat} {j : Json} (h : Fits shape depth j) :
    Fits (.option shape) depth j
  | list {item : Shape} {depth : Nat} {xs : List Json} (h : ∀ x ∈ xs, Fits item depth x) :
    Fits (.list item) (depth + 1) (array xs)
  | record {fields : List (String × Shape)} {keepsOthers : Bool} {depth : Nat}
    {ms : List (String × Json)}
    (h : ∀ m ∈ ms, ∀ shape, fields.lookup m.1 = some shape → Fits shape depth m.2)
    (hothers : ∀ m ∈ ms, fields.lookup m.1 = none → keepsOthers = true ∧ Legible depth m.2) :
    Fits (.record fields keepsOthers) (depth + 1) (object ms)

lemma Shape.Fits.legible {shape : Shape} (h : shape.Fits depth j) : Legible depth j := by
  induction h with
  | value h => exact h
  | hash s => exact .string s
  | absent => exact .null
  | present _ ih => exact ih
  | list _ ih => exact .array ih
  | @record fields _ _ _ _ hothers ih =>
    apply Legible.object
    intro m hm
    cases hl : fields.lookup m.1 with
    | none => exact (hothers m hm hl).2
    | some shape => exact ih m hm shape hl

lemma lookup_readFields (fields : List (String × Shape)) (name : String) :
    (Shape.readFields limit fields depth).lookup name =
      (fields.lookup name).map fun shape => shape.read limit depth := by
  induction fields with
  | nil => rfl
  | cons field fields ih =>
    obtain ⟨other, shape⟩ := field
    rw [Shape.readFields, List.lookup_cons, List.lookup_cons, ih]
    split <;> rfl

lemma byName_members {keepsOthers : Bool} {reads : List (String × Reading Json)}
    {ms : List (String × Json)} (hl : ([','].intercalate (ms.map memberChars)).length ≤ limit)
    (h : ∀ m ∈ ms, ∀ read, reads.lookup m.1 = some read → m.2.chars.length ≤ limit →
      Reads read m.2.chars m.2)
    (hothers : ∀ m ∈ ms, reads.lookup m.1 = none → m.2.chars.length ≤ limit →
      keepsOthers = true ∧ Reads (Reader.value limit depth) m.2.chars m.2)
    (rest : List Char) :
    byName limit depth keepsOthers reads
      ([','].intercalate (ms.map memberChars) ++ '\x7d' :: rest) = some (ms, rest) := by
  have hms {read : String → Reading (Option Json)}
      (hread : ∀ m ∈ ms, m.2.chars.length ≤ limit → Reads (read m.1) m.2.chars (some m.2)) :
      enclosed limit '\x7d' (member read)
        ([','].intercalate (ms.map memberChars) ++ '\x7d' :: rest) =
        some (ms.map fun m => (m.1, some m.2), rest) :=
    enclosed_intercalate (.inr rfl) (fun m _ => solid_member m) hl
      (fun m hm hlm => reads_member (hread m hm ((length_le_memberChars m).trans hlm))) rest
  rw [byName, hms]
  · simp [List.filterMap_map]
  · intro m hm hlm rest hrest
    cases hread : reads.lookup m.1 with
    | none =>
      obtain ⟨hkeeps, hv⟩ := hothers m hm hread hlm
      simp [hkeeps, hv rest hrest]
    | some read => simp [h m hm read hread hlm rest hrest]

theorem reads_of_fits {shape : Shape} (h : shape.Fits depth j) (hl : j.chars.length ≤ limit) :
    Reads (shape.read limit depth) j.chars j := by
  induction h with
  | value h => exact reads_value h hl
  | hash s =>
    intro rest _
    have ht := text_quoted [] s.toList rest
    rw [chars_string, Shape.read, Reader.hash]
    simp [skip, isBlank, ht]
  | absent =>
    intro rest _
    rw [chars_null, Shape.read]
    simp [skip, isBlank]
  | @present shape depth j h ih =>
    intro rest hrest
    by_cases hj : j = .null
    · rw [hj, chars_null, Shape.read]
      simp [skip, isBlank]
    · have hs := skip_solid h.legible.solid rest
      obtain ⟨c, cs, hc, -, hn⟩ := h.legible.exists_head
      rw [hc] at hs
      have ih := ih hl rest hrest
      rw [hc] at ih ⊢
      rw [Shape.read]
      simp only [hs]
      -- null would be taken for no value
      split
      · next h => exact absurd (List.head_eq_of_cons_eq h) (hn hj)
      · exact ih
  | @list item depth xs h ih =>
    intro rest _
    rw [chars_array, List.length_append, List.length_cons] at hl
    have hxs : enclosed limit ']' (item.read limit depth)
        ([','].intercalate (xs.map chars) ++ ']' :: rest) = some (xs.map id, rest) :=
      enclosed_intercalate (.inl rfl) (fun x hx => (h x hx).legible.solid) (by omega) ih rest
    rw [chars_array, Shape.read]
    simp [skip, isBlank, hxs]
  | @record fields keepsOthers depth ms h hothers ih =>
    intro rest _
    rw [chars_object, List.length_append, List.length_cons] at hl
    have hms : byName limit depth keepsOthers (Shape.readFields limit fields depth)
        ([','].intercalate (ms.map memberChars) ++ '\x7d' :: rest) = some (ms, rest) := by
      apply byName_members (by omega)
      · intro m hm read hread hlm
        rw [lookup_readFields, Option.map_eq_some_iff] at hread
        obtain ⟨shape, hshape, rfl⟩ := hread
        exact ih m hm shape hshape hlm
      · intro m hm hread hlm
        rw [lookup_readFields, Option.map_eq_none_iff] at hread
        obtain ⟨hkeeps, hlegible⟩ := hothers m hm hread
        exact ⟨hkeeps, reads_value hlegible hlm⟩
    rw [chars_object, Shape.read]
    simp [skip, isBlank, hms]

/-- What is written is read again. -/
theorem read?_compact {shape : Shape} (h : shape.Fits 127 j) : read? shape j.compact = some j := by
  have hr : shape.read j.compact.toList.length 127 j.compact.toList = some (j, []) := by
    have h := reads_of_fits h le_rfl [] .ending
    rwa [List.append_nil] at h
  simp only [read?, hr]
  rfl

lemma lookup_plain {names : List String} {name : String} (h : name ∈ names) :
    (names.map (·, Shape.value)).lookup name = some Shape.value := by
  induction names with
  | nil => cases h
  | cons n names ih =>
    rw [List.map_cons, List.lookup_cons]
    cases hn : name == n with
    | true => rfl
    | false =>
      rcases List.mem_cons.mp h with rfl | h
      · rw [beq_self_eq_true] at hn
        cases hn
      · exact ih h

lemma read?_plain {names : List String} {ms : List (String × Json)} (hnames : ∀ m ∈ ms, m.1 ∈ names)
    (h : ∀ m ∈ ms, Legible 126 m.2) :
    read? (.plain names) (object ms).compact = some (object ms) := by
  apply read?_compact
  apply Shape.Fits.record
  · intro m hm shape hs
    rw [lookup_plain (hnames m hm)] at hs
    cases hs
    exact .value (h m hm)
  · intro m hm hs
    rw [lookup_plain (hnames m hm)] at hs
    cases hs

end Attestation.Json
