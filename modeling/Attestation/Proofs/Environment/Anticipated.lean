import Mathlib
import Attestation.Proofs.Codec.IntegrityCode
import Attestation.Proofs.Environment.Protocol
import Attestation.Proofs.Environment.Quiet
import Attestation.Proofs.Network.RoundBinding

/-!
Anticipated responses. The client puts the salted hash of the response that it expects into its
request, and the network answers with no other one. Main statement: a flow for an anticipated
response proves that response or nothing, and it proves it where the ledger supports it.
-/

namespace Attestation

open Merkle (CollisionFree)

variable {request : Request} {anticipated response : Response} {salt : String} {code : Hash}

lemma ResponseBody.pledge_inj {a b : ResponseBody} {source : Source}
    (h : a.pledge source salt = b.pledge source salt) : a = b :=
  (Preimage.of_inj h).1

namespace Network

variable {n : Network} {c : Chain} {round : UInt64} {data : Bytes} {read : Request}

-- The network reads the integrity code that the request was written with.
lemma Sound.pledged (hn : n.Sound) (he : Codec.encode request = .ok data)
    (hr : n.response? round data = some response) : request.integrityCode = Hash.zero ∨
      keccak (response.body.pledge request.source n.salt) = request.integrityCode := by
  obtain ⟨closed, hc, hr⟩ := Option.bind_eq_some_iff.mp hr
  obtain ⟨c, hclosed⟩ := hn round closed hc
  rw [hclosed] at hr
  obtain ⟨read, e, proof, -, hs, rfl, -, -⟩ := proven_of_response? hr
  obtain ⟨-, ht, hcode⟩ := Codec.header_of_decode he hs.decoded
  rw [← hcode, ← ht]
  exact hs.anticipated.imp_right fun h => (integrityCode_eq_ok_iff.mp h).2

-- The code of the anticipated response is that of the response which the ledger supports.
lemma supported_of_anticipated (he : Codec.encode request = .ok data)
    (hd : Codec.decode data = .ok read) (hr : expectedResponse c read = some response)
    (hb : response.body = anticipated.body) (salt : String) : ∃ code data',
      integrityCode request anticipated salt = .ok code ∧
      Codec.encode (request.withIntegrityCode code) = .ok data' ∧
      Supported salt c data' (read.withIntegrityCode code) response := by
  obtain ⟨hk, ht, -⟩ := Codec.header_of_decode he hd
  have hresponse := Validation.kind_of_expectedResponse hr
  have hanticipated : anticipated.kind = request.kind := by
    rw [← hk, ← hresponse, Response.kind, Response.kind, hb]
  have hcode := integrityCode_of_kind_eq hresponse salt
  rw [ht, hb] at hcode
  obtain ⟨data', he', hread⟩ := Codec.decode_withIntegrityCode he hd
    (keccak (anticipated.body.pledge request.source salt))
  exact ⟨_, data', integrityCode_of_kind_eq hanticipated salt, he', hread, hr, .inr hcode⟩

end Network

namespace Environment

variable {e : Environment} {t : Task} {place : ℕ} {events : List Event} {p : Proof}

lemma newTask_of_mismatch (h : anticipated.kind ≠ request.kind) :
    (e.newTask (.anticipated request anticipated)).flow =
      .ended (.error (.attestation (.responseMismatch request.kind.id anticipated.kind.id))) := by
  apply newTask_of_error
  rw [Claim.request, integrityCode_of_kind_ne h]

lemma request_anticipated (h : integrityCode request anticipated salt = .ok code) (l : Ledger) :
    Claim.request l salt (.anticipated request anticipated) =
      .ok (request.withIntegrityCode code) := by
  rw [Claim.request, h]

lemma task_of_resultAt? {result : Except Fault Outcome} (h : e.resultAt? place = some result) :
    ∃ t, e.tasks[place]? = some t ∧ t.flow = .ended result := by
  obtain ⟨t, ht, hr⟩ := Option.bind_eq_some_iff.mp h
  exact ⟨t, ht, Flow.eq_ended_of_result? hr⟩

lemma Backed.proved (h : e.Backed) (hp : e.resultAt? place = some (.ok (.proved p))) :
    Codec.encode p.request = .ok p.id.data ∧
      e.network.response? p.id.round p.id.data = some p.response := by
  obtain ⟨t, ht, hf⟩ := task_of_resultAt? hp
  have hb := h.tasks t (List.mem_of_getElem? ht)
  rwa [hf] at hb

lemma request_of_proved {claim : Claim}
    (hr : claim.request e.chain.ledger e.settings.salt = .ok request)
    (hp : ((e.apply (.launch claim)).after events).resultAt? e.tasks.length =
      some (.ok (.proved p))) : p.request = request := by
  obtain ⟨t, xs, ht, htrace⟩ := trace_after e claim events
  obtain ⟨t', ht', hf⟩ := task_of_resultAt? hp
  cases ht.symm.trans ht'
  rw [Claim.flow, hr, hf] at htrace
  cases Flow.trace_iff_protocol.mp htrace
  rfl

lemma body_of_proved (h : e.Reachable) (hsalt : e.network.salt = e.settings.salt)
    (hp : ((e.apply (.launch (.anticipated request anticipated))).after events).resultAt?
      e.tasks.length = some (.ok (.proved p)))
    (nonzero : integrityCode request anticipated e.settings.salt ≠ .ok Hash.zero)
    (free : CollisionFree [anticipated.body.pledge request.source e.settings.salt,
      p.response.body.pledge request.source e.settings.salt]) :
    p.response.body = anticipated.body := by
  by_cases hk : anticipated.kind = request.kind
  · have hcode := integrityCode_of_kind_eq hk e.settings.salt
    have hrequest := request_of_proved (request_anticipated hcode _) hp
    have hb := (h.backed.apply (.launch (.anticipated request anticipated))).after events
    obtain ⟨he, hr⟩ := hb.proved hp
    have hnetwork : ((e.apply (.launch (.anticipated request anticipated))).after
        events).network.salt = e.settings.salt := by
      rw [(later_after _ events).salt]
      exact hsalt
    have hpledged := hb.network.pledged he hr
    rw [hnetwork, hrequest] at hpledged
    rcases hpledged with hzero | hsame
    · exact absurd (hcode.trans (congrArg Except.ok hzero)) nonzero
    · have hsame : keccak (p.response.body.pledge request.source e.settings.salt) =
          keccak (anticipated.body.pledge request.source e.settings.salt) := hsame
      exact ResponseBody.pledge_inj (free _ (by simp) _ (by simp) hsame)
  · rw [(resultAt?_of_ended (newTask_of_mismatch hk) events).1] at hp
    cases hp

theorem proves_anticipated (h : e.Reachable) (hsalt : e.network.salt = e.settings.salt)
    (request : Request) (anticipated : Response) :
    let claim : Claim := .anticipated request anticipated
    let launched := e.apply (.launch claim)
    let place := e.tasks.length
    let mismatch : Fault :=
      .attestation (.responseMismatch request.kind.id anticipated.kind.id)
    (anticipated.kind ≠ request.kind → e.prove claim = (some (.error mismatch), e) ∧
      ∀ events, (launched.after events).resultAt? place = some (.error mismatch) ∧
        (launched.after events).apply (.step place) = launched.after events) ∧
    (∀ p, ((e.prove claim).1 = some (.ok (.proved p)) ∨
        ∃ events, (launched.after events).resultAt? place = some (.ok (.proved p))) →
      integrityCode request anticipated e.settings.salt ≠ .ok Hash.zero →
      CollisionFree [anticipated.body.pledge request.source e.settings.salt,
        p.response.body.pledge request.source e.settings.salt] →
      p.response.body = anticipated.body) ∧
    ∀ data read response, e.network.Open → e.isCancelled e.token = false →
      Codec.encode request = .ok data → Codec.decode data = .ok read →
      expectedResponse e.chain read = some response → response.body = anticipated.body →
      (e.network.current.toNat + 1 < UInt64.size →
        ∃ p, (e.prove claim).1 = some (.ok (.proved p)) ∧ p.response.body = anticipated.body) ∧
      ∀ events, (∀ event ∈ events, event.Quiet e.chain) →
        stepsToEnd ≤ events.countP (·.steps place) →
        (launched.after events).network.current.toNat + 1 < UInt64.size →
        ∃ p, (launched.after events).resultAt? place = some (.ok (.proved p)) ∧
          p.response.body = anticipated.body := by
  intro claim launched place mismatch
  refine ⟨fun hk => ⟨prove_of_ended (newTask_of_mismatch hk),
    resultAt?_of_ended (newTask_of_mismatch hk)⟩, fun p hp nonzero free => ?_,
    fun data read response hopen hu he hd hr hb => ?_⟩
  · obtain ⟨events, hp⟩ : ∃ events,
        (launched.after events).resultAt? place = some (.ok (.proved p)) := by
      rcases hp with hp | hp
      · obtain ⟨_, ⟨events, -, rfl⟩, hresult⟩ := prove_eq_resultAt? e claim
        exact ⟨events, hresult ▸ hp⟩
      · exact hp
    exact body_of_proved h hsalt hp nonzero free
  · obtain ⟨code, data', hcode, he', hs⟩ :=
      Network.supported_of_anticipated he hd hr hb e.settings.salt
    have hrequest := request_anticipated hcode e.chain.ledger
    rw [← hsalt] at hs
    have hq : Quiet e.chain e.token e := ⟨hopen, hu, .refl e.chain⟩
    refine ⟨fun room => ?_, fun events hevents hsteps room => ?_⟩
    · obtain ⟨p, hp, -, -, hbody⟩ := prove_of_quiet hq hrequest he' hs room
      exact ⟨p, hp, hbody.trans hb⟩
    · obtain ⟨p, hp, -, -, hbody⟩ := proved_of_quiet hq hrequest he' hs hevents hsteps room
      exact ⟨p, hp, hbody.trans hb⟩

/-- What is anticipated carries a round and a proof that nobody has seen. -/
theorem proves_anticipated_height : ∃ (e : Environment) (anticipated other : Response) (p : Proof),
    e.Reachable ∧ e.network.salt = e.settings.salt ∧
      anticipated = ⟨some 7, some [0], Network.five⟩ ∧ other.kind = .payment ∧
      e.prove (.anticipated (.blockHeight .btc 5 20) other) =
        (some (.error (.attestation (.responseMismatch 3 1))), e) ∧
      (e.prove (.anticipated (.blockHeight .btc 5 20) anticipated)).1 =
        some (.ok (.proved p)) ∧
      integrityCode (.blockHeight .btc 5 20) anticipated e.settings.salt ≠ .ok Hash.zero ∧
      CollisionFree [anticipated.body.pledge .btc e.settings.salt,
        p.response.body.pledge .btc e.settings.salt] ∧
      p.response.body = anticipated.body := by
  let e : Environment := .start Network.tenBlocks .auto standardSalt .standard
  let anticipated : Response := ⟨some 7, some [0], Network.five⟩
  let other : Response := .pending (.payment default)
  have h : e.Reachable :=
    ⟨Network.tenBlocks, .auto, standardSalt, .standard, [],
      ⟨.btc, 2, 10, [.mineEmpty 10], rfl⟩, rfl⟩
  obtain ⟨hmismatch, -, -⟩ := proves_anticipated h rfl (.blockHeight .btc 5 20) other
  obtain ⟨-, hbody, hproved⟩ := proves_anticipated h rfl (.blockHeight .btc 5 20) anticipated
  obtain ⟨p, hp, hsame⟩ := (hproved _ _ _ ⟨rfl, rfl, rfl⟩ rfl Network.encode_five
    Network.supported_five.decoded Network.supported_five.expected rfl).1 (by decide)
  have nonzero : integrityCode (.blockHeight .btc 5 20) anticipated standardSalt ≠
      .ok Hash.zero := by
    rw [integrityCode_of_kind_eq rfl, keccak_eq]
    decide +kernel
  have free : CollisionFree [anticipated.body.pledge .btc standardSalt,
      p.response.body.pledge .btc standardSalt] := by
    rw [hsame]
    simp [CollisionFree]
  exact ⟨e, anticipated, other, p, h, rfl, rfl, rfl, (hmismatch (by decide)).1, hp, nonzero, free,
    hbody p (.inl hp) nonzero free⟩

end Environment

end Attestation
