import Mathlib
import Attestation.Provider

/-!
What replies say (`HttpReply.means_iff`), and which dialogues sessions hold. A session takes replies
off a list as a reader takes characters off a text, so what is to be said of it is what it reads:
`Session.Holds` is that it comes to an end with just the given dialogues, and where sessions follow
one another so do their dialogues (`Session.Holds.andThen`).
-/

namespace Attestation

namespace HttpReply

def IsSuccess (status : UInt16) : Prop := 200 ≤ status ∧ status < 300

def IsFailure (status : UInt16) : Prop := 500 ≤ status ∧ status < 600

/-- What is shown of the body of a reply without success. -/
def shown (status : UInt16) (body : Option String) : String :=
  (received status body).getD "[failed to read response body"

/-- What a reply says, by what can be read in a body. -/
inductive Means {α : Type} (timeout : Duration) (read : String → Option α) :
    HttpReply → Except Fault α → Prop
  | dropped : Means timeout read .dropped (.error (.oracleUnavailable "connection failed"))
  | hung : Means timeout read .hung (.error (.timeout (UInt64.ofNat timeout.secs)))
  | value {status : UInt16} {body : Option String} {text : String} {a : α} (hs : IsSuccess status)
    (hb : received status body = some text) (hr : read text = some a) :
    Means timeout read (.answer status body) (.ok a)
  | undecodable {status : UInt16} {body : Option String} (hs : IsSuccess status)
    (hb : ∀ text, received status body = some text → read text = none) :
    Means timeout read (.answer status body) (.error (.invalidResponse "undecodable body"))
  | failed {status : UInt16} {body : Option String} (hf : IsFailure status) :
    Means timeout read (.answer status body) (.error (.oracleFailed status (shown status body)))
  | refused {status : UInt16} {body : Option String} (hs : ¬ IsSuccess status)
    (hf : ¬ IsFailure status) :
    Means timeout read (.answer status body) (.error (.oracleRefused status (shown status body)))

variable {α : Type} {timeout : Duration} {read : String → Option α} {reply : HttpReply}
  {r : Except Fault α} {status : UInt16}

lemma not_isSuccess (hf : IsFailure status) : ¬ IsSuccess status := by
  rintro ⟨-, hs⟩
  have h : (500 : UInt16) < 300 := UInt16.lt_of_le_of_lt hf.1 hs
  exact absurd h (by decide)

section Answer

variable (timeout : Duration) (read : String → Option α) (body : Option String)

lemma value_of_isSuccess (hs : IsSuccess status) : (answer status body).value timeout read =
    ((received status body).bind read).elim (.error (.invalidResponse "undecodable body")) .ok := by
  rw [value]
  refine (if_pos hs).trans ?_
  cases (received status body).bind read <;> rfl

lemma value_of_isFailure (hf : IsFailure status) : (answer status body).value timeout read =
    .error (.oracleFailed status (shown status body)) := by
  rw [value]
  exact (if_neg (not_isSuccess hf)).trans (if_pos hf)

lemma value_of_refused (hs : ¬ IsSuccess status) (hf : ¬ IsFailure status) :
    (answer status body).value timeout read =
      .error (.oracleRefused status (shown status body)) := by
  rw [value]
  exact (if_neg hs).trans (if_neg hf)

end Answer

lemma Means.value_eq (h : reply.Means timeout read r) : reply.value timeout read = r := by
  cases h with
  | dropped => rfl
  | hung => rfl
  | value hs hb hr =>
    rw [value_of_isSuccess _ _ _ hs, hb, Option.bind_some, hr, Option.elim_some]
  | undecodable hs hb =>
    rw [value_of_isSuccess _ _ _ hs, Option.bind_eq_none_iff.mpr hb, Option.elim_none]
  | failed hf => exact value_of_isFailure _ _ _ hf
  | refused hs hf => exact value_of_refused _ _ _ hs hf

lemma means_value (timeout : Duration) (read : String → Option α) (reply : HttpReply) :
    reply.Means timeout read (reply.value timeout read) := by
  cases reply with
  | dropped => exact .dropped
  | hung => exact .hung
  | answer status body =>
    by_cases hs : IsSuccess status
    · rw [value_of_isSuccess _ _ _ hs]
      cases hb : (received status body).bind read with
      | none => exact .undecodable hs (Option.bind_eq_none_iff.mp hb)
      | some a =>
        obtain ⟨text, ht, hr⟩ := Option.bind_eq_some_iff.mp hb
        exact .value hs ht hr
    by_cases hf : IsFailure status
    · rw [value_of_isFailure _ _ _ hf]
      exact .failed hf
    · rw [value_of_refused _ _ _ hs hf]
      exact .refused hs hf

theorem means_iff : reply.Means timeout read r ↔ reply.value timeout read = r := by
  refine ⟨Means.value_eq, ?_⟩
  rintro rfl
  exact means_value timeout read reply

end HttpReply

/-- Questions with the replies to them. -/
abbrev Talk := List (HttpRequest × HttpReply)

namespace Session

/-- A session that came to its end with these questions, this result and these replies left. -/
structure Ends {α : Type} (s : Session α) (questions : List HttpRequest) (result : Except Fault α)
    (replies : List HttpReply) : Prop where
  questions : s.questions = questions
  result : s.result = some result
  replies : s.replies = replies

/-- Sessions that come to an end with just the given dialogues: where a session ends, its questions
and the replies it has used are a dialogue, and with the replies of a dialogue it ends so, whatever
replies are left. -/
def Holds {α : Type} (f : List HttpReply → Session α) (dialogue : Talk → Except Fault α → Prop) :
    Prop :=
  ∀ replies questions result rest, (f replies).Ends questions result rest ↔
    ∃ xs, dialogue xs result ∧ questions = xs.map (·.1) ∧ replies = xs.map (·.2) ++ rest

/-- A dialogue, and a next one if something came of it. -/
inductive Chained {α β : Type} (first : Talk → Except Fault α → Prop)
    (next : α → Talk → Except Fault β → Prop) : Talk → Except Fault β → Prop
  | stop {xs : Talk} {e : Fault} (h : first xs (.error e)) : Chained first next xs (.error e)
  | go {xs ys : Talk} {a : α} {result : Except Fault β} (h : first xs (.ok a))
    (hnext : next a ys result) : Chained first next (xs ++ ys) result

variable {α β : Type} {f : List HttpReply → Session α} {dialogue : Talk → Except Fault α → Prop}

lemma ends_andThen_iff {s : Session α} {next : α → List HttpReply → Session β}
    {questions : List HttpRequest} {result : Except Fault β} {rest : List HttpReply} :
    (s.andThen next).Ends questions result rest ↔
      (∃ e, s.Ends questions (.error e) rest ∧ result = .error e) ∨
      ∃ a earlier left later, s.Ends earlier (.ok a) left ∧ (next a left).Ends later result rest ∧
        questions = earlier ++ later := by
  -- the session comes to no end, ends in a failure, or brings a value
  rcases s with ⟨qs, _ | e | a, left, sleeps⟩
  · exact ⟨nofun, nofun⟩
  · constructor
    · rintro ⟨rfl, hr, rfl⟩
      cases hr
      exact .inl ⟨e, ⟨rfl, rfl, rfl⟩, rfl⟩
    · rintro (⟨e, ⟨rfl, hr, rfl⟩, rfl⟩ | ⟨a, -, -, -, ⟨-, hr, -⟩, -⟩)
      · cases hr
        exact ⟨rfl, rfl, rfl⟩
      · cases hr
  · constructor
    · rintro ⟨rfl, hr, rfl⟩
      exact .inr ⟨a, qs, left, _, ⟨rfl, rfl, rfl⟩, ⟨rfl, hr, rfl⟩, rfl⟩
    · rintro (⟨e, ⟨-, hr, -⟩, -⟩ | ⟨a, _, _, _, ⟨rfl, hr, rfl⟩, ⟨rfl, hr', rfl⟩, rfl⟩)
      · cases hr
      · cases hr
        exact ⟨rfl, hr', rfl⟩

lemma Holds.congr {dialogue' : Talk → Except Fault α → Prop} (hf : Holds f dialogue)
    (h : ∀ xs r, dialogue xs r ↔ dialogue' xs r) : Holds f dialogue' := by
  intro replies questions result rest
  rw [hf]
  exact exists_congr fun xs => and_congr_left' (h xs result)

lemma holds_done (result : Except Fault α) :
    Holds (done result) fun xs r => xs = [] ∧ r = result := by
  intro replies questions r rest
  constructor
  · rintro ⟨rfl, hr, rfl⟩
    cases hr
    exact ⟨[], ⟨rfl, rfl⟩, rfl, rfl⟩
  · rintro ⟨_, ⟨rfl, rfl⟩, rfl, rfl⟩
    exact ⟨rfl, rfl, rfl⟩

lemma holds_ask (question : HttpRequest) (read : HttpReply → Except Fault α) :
    Holds (ask question read) fun xs r => ∃ reply, xs = [(question, reply)] ∧ read reply = r := by
  intro replies questions r rest
  constructor
  · rintro ⟨rfl, hr, rfl⟩
    cases replies with
    | nil => cases hr
    | cons reply replies => exact ⟨_, ⟨reply, rfl, Option.some.inj hr⟩, rfl, rfl⟩
  · rintro ⟨_, ⟨reply, rfl, rfl⟩, rfl, rfl⟩
    exact ⟨rfl, rfl, rfl⟩

lemma Holds.andThen (hf : Holds f dialogue) {next : α → List HttpReply → Session β}
    {dialogues : α → Talk → Except Fault β → Prop}
    (hnext : ∀ a, Holds (next a) (dialogues a)) :
    Holds (fun replies => (f replies).andThen next) (Chained dialogue dialogues) := by
  intro replies questions result rest
  rw [ends_andThen_iff]
  constructor
  · rintro (⟨e, he, rfl⟩ | ⟨a, earlier, left, later, ha, hl, rfl⟩)
    · obtain ⟨xs, hxs, rfl, rfl⟩ := (hf _ _ _ _).mp he
      exact ⟨xs, .stop hxs, rfl, rfl⟩
    · obtain ⟨xs, hxs, rfl, rfl⟩ := (hf _ _ _ _).mp ha
      obtain ⟨ys, hys, rfl, rfl⟩ := (hnext a _ _ _ _).mp hl
      refine ⟨xs ++ ys, .go hxs hys, ?_, ?_⟩
      · rw [List.map_append]
      · rw [List.map_append, List.append_assoc]
  · rintro ⟨_, hxs, rfl, rfl⟩
    cases hxs with
    | stop h => exact .inl ⟨_, (hf _ _ _ _).mpr ⟨_, h, rfl, rfl⟩, rfl⟩
    | @go xs ys a _ h h' =>
      refine .inr ⟨a, _, ys.map (·.2) ++ rest, _, (hf _ _ _ _).mpr ⟨xs, h, rfl, ?_⟩,
        (hnext a _ _ _ _).mpr ⟨ys, h', rfl, rfl⟩, List.map_append⟩
      rw [List.map_append, List.append_assoc]

end Session

end Attestation
