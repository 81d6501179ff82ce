import Mathlib
import Attestation.Proofs.Json.Record
import Attestation.Proofs.Json.Scalar
import Attestation.Proofs.Json.Text
import Attestation.Response.Json

/-!
Responses are read back from their JSON (`reads_back`): from the value, from its text, from the same
members in another order and with others among them. The fields of a response have different names
whatever its body is (`nodup_names`), so every member is found where it is looked for.
-/

namespace Attestation

variable {extra all : List (String × Json)}

namespace PaymentResponse

lemma ofJson?_of_perm (r : PaymentResponse) (hnew : ∀ m ∈ extra, m.1 ∉ names)
    (hall : all.Perm (r.members ++ extra)) : ofJson? (.object all) = some r := by
  have hf := Json.fields?_of_perm names rfl (by decide) hnew hall names.length
  rw [ofJson?, hf, Option.bind_eq_bind, Option.bind_some, members]
  simp only [List.map_cons, List.map_nil, Json.need, Option.bind_some, Option.bind_eq_bind,
    Json.uint64?_nat, Json.uint8?_nat, Json.hash?_hash, Json.int256?_int256, Json.bool?_bool]
  rfl

end PaymentResponse

namespace BalanceDecreasingResponse

lemma ofJson?_of_perm (r : BalanceDecreasingResponse) (hnew : ∀ m ∈ extra, m.1 ∉ names)
    (hall : all.Perm (r.members ++ extra)) : ofJson? (.object all) = some r := by
  have hf := Json.fields?_of_perm names rfl (by decide) hnew hall names.length
  rw [ofJson?, hf, Option.bind_eq_bind, Option.bind_some, members]
  simp only [List.map_cons, List.map_nil, Json.need, Option.bind_some, Option.bind_eq_bind,
    Json.uint64?_nat, Json.uint8?_nat, Json.hash?_hash, Json.int256?_int256]
  rfl

end BalanceDecreasingResponse

namespace BlockHeightResponse

lemma ofJson?_of_perm (r : BlockHeightResponse) (hnew : ∀ m ∈ extra, m.1 ∉ names)
    (hall : all.Perm (r.members ++ extra)) : ofJson? (.object all) = some r := by
  have hf := Json.fields?_of_perm names rfl (by decide) hnew hall names.length
  rw [ofJson?, hf, Option.bind_eq_bind, Option.bind_some, members]
  simp only [List.map_cons, List.map_nil, Json.need, Option.bind_some, Option.bind_eq_bind,
    Json.uint64?_nat, Json.uint8?_nat]
  rfl

end BlockHeightResponse

namespace NonexistenceResponse

lemma ofJson?_of_perm (r : NonexistenceResponse) (hnew : ∀ m ∈ extra, m.1 ∉ names)
    (hall : all.Perm (r.members ++ extra)) : ofJson? (.object all) = some r := by
  have hf := Json.fields?_of_perm names rfl (by decide) hnew hall names.length
  rw [ofJson?, hf, Option.bind_eq_bind, Option.bind_some, members]
  simp only [List.map_cons, List.map_nil, Json.need, Option.bind_some, Option.bind_eq_bind,
    Json.uint64?_nat, Json.hash?_hash, Json.uint128?_uint128]
  rfl

end NonexistenceResponse

namespace ResponseBody

def names : Kind → List String
  | .payment => PaymentResponse.names
  | .balanceDecreasingTransaction => BalanceDecreasingResponse.names
  | .confirmedBlockHeightExists => BlockHeightResponse.names
  | .referencedPaymentNonexistence => NonexistenceResponse.names

lemma names_members (b : ResponseBody) : b.members.map (·.1) = names b.kind := by
  cases b <;> rfl

lemma ofFields?_of_perm (b : ResponseBody) (hnew : ∀ m ∈ extra, m.1 ∉ names b.kind)
    (hall : all.Perm (b.members ++ extra)) : ofFields? (.object all) b.kind = some b := by
  cases b with
  | payment r => exact congrArg (Option.map payment) (r.ofJson?_of_perm hnew hall)
  | balanceDecreasing r =>
    exact congrArg (Option.map balanceDecreasing) (r.ofJson?_of_perm hnew hall)
  | blockHeight r => exact congrArg (Option.map blockHeight) (r.ofJson?_of_perm hnew hall)
  | nonexistence r => exact congrArg (Option.map nonexistence) (r.ofJson?_of_perm hnew hall)

end ResponseBody

namespace Response

def ownNames : List String :=
  ["stateConnectorRound", "merkleProof", ResponseBody.kindName]

/-- The fields of a response, its own and those of its body. -/
def names (kind : Kind) : List String :=
  ownNames ++ ResponseBody.names kind

def members (r : Response) : List (String × Json) :=
  ("stateConnectorRound", Json.option (fun n : UInt64 => .nat n.toNat) r.round) ::
  ("merkleProof", Json.option (fun hs => .array (hs.map Json.hash)) r.proof) ::
  (ResponseBody.kindName, .string r.kind.name) :: r.body.members

lemma names_members (r : Response) : r.members.map (·.1) = names r.kind := by
  rw [members, List.map_cons, List.map_cons, List.map_cons, ResponseBody.names_members]
  rfl

lemma perm_members (r : Response) : r.members.Perm (r.members ++ []) := by
  rw [List.append_nil]

lemma nodup_names (kind : Kind) : (names kind).Nodup := by
  cases kind <;> decide

lemma not_mem_ownNames {kind : Kind} {name : String} (h : name ∈ ResponseBody.names kind) :
    name ∉ ownNames := by
  have hd := (List.nodup_append'.mp (nodup_names kind)).2.2
  exact fun ho => hd ho h

lemma without_of_perm (r : Response) (hnew : ∀ m ∈ extra, m.1 ∉ names r.kind)
    (hall : all.Perm (r.members ++ extra)) :
    (ResponseBody.without ownNames all).Perm (r.body.members ++ extra) := by
  have hkeep : ∀ m ∈ r.body.members ++ extra, (!ownNames.contains m.1) = true := by
    intro m hm
    rw [Bool.not_eq_true', List.contains_eq_mem, decide_eq_false_iff_not]
    rcases List.mem_append.mp hm with hm | hm
    · exact not_mem_ownNames (r.body.names_members ▸ List.mem_map_of_mem hm)
    · exact fun ho => hnew m hm (List.mem_append_left _ ho)
  have hown : (r.members ++ extra).filter (fun m => !ownNames.contains m.1) =
      r.body.members ++ extra := by
    rw [members]
    simp only [List.cons_append]
    rw [List.filter_cons_of_neg (by simp [ownNames]), List.filter_cons_of_neg (by simp [ownNames]),
      List.filter_cons_of_neg (by simp [ownNames]), List.filter_eq_self.mpr hkeep]
  exact hown ▸ hall.filter _

/-- The order of the members and further members make no difference. -/
theorem ofJson?_of_perm (r : Response) (hnew : ∀ m ∈ extra, m.1 ∉ names r.kind)
    (hall : all.Perm (r.members ++ extra)) : ofJson? (.object all) = some r := by
  have hn : (r.members.map (·.1)).Nodup := r.names_members ▸ nodup_names r.kind
  have hfield {name : String} {j : Json} (hm : (name, j) ∈ r.members) :
      Json.memberOf? all name = some (some j) :=
    Json.memberOf?_of_perm hn (r.names_members ▸ hnew) hall hm
  have hround := hfield List.mem_cons_self
  have hproof := hfield (List.mem_cons_of_mem _ List.mem_cons_self)
  have hkind := hfield (List.mem_cons_of_mem _ (List.mem_cons_of_mem _ List.mem_cons_self))
  have hbody := r.body.ofFields?_of_perm
    (fun m hm hb => hnew m hm (List.mem_append_right _ hb)) (r.without_of_perm hnew hall)
  have hr : Json.option? Json.uint64? (Json.option (fun n : UInt64 => .nat n.toNat) r.round) =
      some r.round := Json.option?_option Json.uint64?_nat (fun _ => nofun) r.round
  have hp : Json.option? (Json.list? Json.hash?)
      (Json.option (fun hs => .array (hs.map Json.hash)) r.proof) = some r.proof :=
    Json.option?_option (Json.list?_array Json.hash?_hash) (fun _ => nofun) r.proof
  have hk : kind? (.string r.kind.name) = some r.kind := Kind.ofName?_name r.kind
  rw [ofJson?, hround, hproof, hkind]
  simp only [Option.bind_eq_bind, Option.bind_some, Json.need, Json.orElse, hr, hp, hk]
  change (ResponseBody.ofFields? (.object (ResponseBody.without ownNames all)) r.body.kind).bind _ =
    some r
  rw [hbody]
  rfl

lemma ofJson?_toJson (r : Response) : ofJson? r.toJson = some r :=
  r.ofJson?_of_perm (List.forall_mem_nil _) r.perm_members

section Text

open Json (Legible)

variable {depth : Nat}

lemma legible_of_lt {n : Nat} (h : n < UInt64.size) : Legible depth (.nat n) := by
  apply Legible.number
  rw [JsonNumber.isBounded, decide_eq_true h, Bool.true_or]

lemma legible_uint64 (n : UInt64) : Legible depth (.nat n.toNat) :=
  legible_of_lt n.toNat_lt

lemma legible_uint8 (n : UInt8) : Legible depth (.nat n.toNat) :=
  legible_of_lt (n.toNat_lt.trans (by decide))

lemma legible_body (b : ResponseBody) : ∀ m ∈ b.members, Legible depth m.2 := by
  have hash (h : Hash) : Legible depth (.hash h) := .string _
  have int256 (w : Word) : Legible depth (.int256 w) := .string _
  have uint128 (n : BitVec 128) : Legible depth (.uint128 n) := .string _
  cases b <;>
    simp only [ResponseBody.members, PaymentResponse.members, BalanceDecreasingResponse.members,
      BlockHeightResponse.members, NonexistenceResponse.members, List.forall_mem_cons,
      legible_uint64, legible_uint8, hash, int256, uint128, Legible.bool, true_and] <;>
    exact List.forall_mem_nil _

lemma legible_round (round : Option UInt64) :
    Legible depth (Json.option (fun n : UInt64 => .nat n.toNat) round) := by
  cases round with
  | none => exact .null
  | some n => exact legible_uint64 n

lemma fits_proof (proof : Option (List Hash)) : (Json.Shape.option (.list .hash)).Fits (depth + 1)
    (Json.option (fun hs => .array (hs.map Json.hash)) proof) := by
  cases proof with
  | none => exact .absent
  | some hs =>
    apply Json.Shape.Fits.present
    apply Json.Shape.Fits.list
    simp only [List.forall_mem_map]
    exact fun h _ => .hash _

lemma fits_of_perm (r : Response) (hnew : ∀ m ∈ extra, m.1 ∉ names r.kind)
    (hlegible : ∀ m ∈ extra, Legible (depth + 1) m.2) (hall : all.Perm (r.members ++ extra)) :
    shape.Fits (depth + 2) (.object all) := by
  have hother {name : String} (h : name ∉ ownNames) :
      name ≠ "stateConnectorRound" ∧ name ≠ "merkleProof" := by
    simp only [ownNames, List.mem_cons, not_or] at h
    exact ⟨h.1, h.2.1⟩
  have hfield : ∀ m ∈ r.members ++ extra,
      m = ("stateConnectorRound", Json.option (fun n : UInt64 => .nat n.toNat) r.round) ∨
      m = ("merkleProof", Json.option (fun hs => .array (hs.map Json.hash)) r.proof) ∨
      (m.1 ≠ "stateConnectorRound" ∧ m.1 ≠ "merkleProof") ∧ Legible (depth + 1) m.2 := by
    intro m hm
    rw [members] at hm
    simp only [List.cons_append, List.mem_cons, List.mem_append] at hm
    rcases hm with rfl | rfl | rfl | hm | hm
    · exact .inl rfl
    · exact .inr (.inl rfl)
    · exact .inr (.inr ⟨by simp [ResponseBody.kindName], .string _⟩)
    · have hname := not_mem_ownNames (r.body.names_members ▸ List.mem_map_of_mem hm)
      exact .inr (.inr ⟨hother hname, legible_body r.body m hm⟩)
    · have hname : m.1 ∉ ownNames := fun ho => hnew m hm (List.mem_append_left _ ho)
      exact .inr (.inr ⟨hother hname, hlegible m hm⟩)
  apply Json.Shape.Fits.record
  · intro m hm shape hs
    rcases hfield m (hall.subset hm) with rfl | rfl | ⟨⟨hround, hproof⟩, -⟩
    · obtain rfl := Option.some.inj hs
      exact .value (legible_round r.round)
    · obtain rfl := Option.some.inj hs
      exact fits_proof r.proof
    · rw [List.lookup_cons, beq_false_of_ne hround, List.lookup_cons, beq_false_of_ne hproof] at hs
      cases hs
  · intro m hm hs
    rcases hfield m (hall.subset hm) with rfl | rfl | ⟨-, hm⟩
    · cases hs
    · cases hs
    · exact ⟨rfl, hm⟩

theorem read?_of_perm (r : Response) (hnew : ∀ m ∈ extra, m.1 ∉ names r.kind)
    (hlegible : ∀ m ∈ extra, Legible 126 m.2) (hall : all.Perm (r.members ++ extra)) :
    format.read? (Json.object all).compact = some r := by
  have hread := Json.read?_compact (r.fits_of_perm hnew hlegible hall)
  rw [Json.Format.read?, format, hread]
  exact r.ofJson?_of_perm hnew hall

end Text

theorem reads_back (r : Response) :
    r.toJson = .object r.members ∧ ofJson? r.toJson = some r ∧
      format.read? (format.write r) = some r ∧
      ∀ extra all : List (String × Json), (∀ m ∈ extra, m.1 ∉ r.members.map (·.1)) →
        all.Perm (r.members ++ extra) →
        ofJson? (.object all) = some r ∧
          ((∀ m ∈ extra, Json.Legible 126 m.2) →
            format.read? (Json.object all).compact = some r) := by
  refine ⟨rfl, r.ofJson?_toJson, ?_, ?_⟩
  · exact r.read?_of_perm (List.forall_mem_nil _) (List.forall_mem_nil _) r.perm_members
  intro extra all hnew hall
  rw [names_members] at hnew
  exact ⟨r.ofJson?_of_perm hnew hall, fun hlegible => r.read?_of_perm hnew hlegible hall⟩

/-- The ends of all ranges. -/
def extreme : Response :=
  ⟨some 18446744073709551615, some [Hash.zero, BitVec.allOnes 256],
    .payment ⟨0, 18446744073709551615, Hash.zero, 0, 255, BitVec.allOnes 256, Hash.zero,
      BitVec.intMin 256, BitVec.intMax 256, BitVec.allOnes 256, true, 255⟩⟩

theorem reads_back_extreme :
    let extra : List (String × Json) :=
      [("amount", .null), ("proof", .array [.bool true]), ("amount", .string "0x")]
    (∀ m ∈ extra, m.1 ∉ extreme.members.map (·.1)) ∧
      (extra ++ extreme.members.reverse).Perm (extreme.members ++ extra) ∧
      ofJson? (.object (extra ++ extreme.members.reverse)) = some extreme ∧
      format.read? (Json.object (extra ++ extreme.members.reverse)).compact = some extreme := by
  intro extra
  have hnew : ∀ m ∈ extra, m.1 ∉ extreme.members.map (·.1) := by
    rw [names_members]
    decide
  have hall : (extra ++ extreme.members.reverse).Perm (extreme.members ++ extra) :=
    List.perm_append_comm.trans ((List.reverse_perm _).append_right extra)
  have hlegible : ∀ m ∈ extra, Json.Legible 126 m.2 := by
    simp only [extra, List.forall_mem_cons]
    refine ⟨.null, .array ?_, .string _, List.forall_mem_nil _⟩
    exact List.forall_mem_singleton.mpr (.bool true)
  obtain ⟨hvalue, htext⟩ := (reads_back extreme).2.2.2 extra _ hnew hall
  exact ⟨hnew, hall, hvalue, htext hlegible⟩

end Response

end Attestation
