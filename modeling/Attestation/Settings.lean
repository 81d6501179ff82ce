import Attestation.Poll
import Attestation.Text.Blank
import Attestation.Verification

/-!
Settings of an attestation client: the provider of the oracle network, how its rounds are polled,
how long a proof waits, the salt of the network and the log filter.
-/

namespace Attestation

structure ClientSettings where
  baseUrl : String
  timeout : Duration
  userAgent : String
  deriving DecidableEq, Repr

namespace ClientSettings

def standardTimeout : UInt64 := 30

def standardAgent : String := "attestor/0.1.0"

def standardUrl : String := "http://localhost:9500"

def standard : ClientSettings :=
  ⟨standardUrl, .ofSecs standardTimeout.toNat, standardAgent⟩

end ClientSettings

structure ProverSettings where
  /-- How long a round is waited for; none waits for ever. -/
  finalizationTimeout : Option Duration
  salt : String
  deriving DecidableEq, Repr

def ProverSettings.standard : ProverSettings :=
  ⟨none, standardSalt⟩

structure Settings where
  oracleUrl : String
  requestTimeoutSecs : UInt64
  pollBaseDelayMs : UInt64
  pollMaxDelayMs : UInt64
  pollJitterFactor : Float
  /-- Zero waits for ever. -/
  finalizationTimeoutSecs : UInt64
  salt : String
  logFilter : String

namespace Settings

def standard : Settings where
  oracleUrl := ClientSettings.standardUrl
  requestTimeoutSecs := ClientSettings.standardTimeout
  pollBaseDelayMs := 1000
  pollMaxDelayMs := 30000
  pollJitterFactor := 0.1
  finalizationTimeoutSecs := 0
  salt := standardSalt
  logFilter := "info"

inductive Flaw
  | emptyUrl | otherUrl | zeroTimeout | zeroDelay | crossedDelays | jitter | emptySalt
  deriving DecidableEq, Repr

def Flaw.message : Flaw → String
  | emptyUrl => "oracle_url must not be empty"
  | otherUrl => "oracle_url must be an http or https URL"
  | zeroTimeout => "request_timeout_secs must be greater than 0"
  | zeroDelay => "poll_base_delay_ms must be greater than 0"
  | crossedDelays => "poll_base_delay_ms cannot exceed poll_max_delay_ms"
  | jitter => "poll_jitter_factor must be between 0.0 and 1.0"
  | emptySalt => "mic_salt must not be empty"

/-- Whether a text begins like the address of a web server. -/
def isWeb (cs : List Char) : Bool :=
  "http://".toList.isPrefixOf cs || "https://".toList.isPrefixOf cs

def flaw? (s : Settings) : Option Flaw :=
  let url := Text.trim s.oracleUrl.toList
  if url.isEmpty then some .emptyUrl
  else if !isWeb url then some .otherUrl
  else if s.requestTimeoutSecs = 0 then some .zeroTimeout
  else if s.pollBaseDelayMs = 0 then some .zeroDelay
  else if s.pollMaxDelayMs < s.pollBaseDelayMs then some .crossedDelays
  else if !(0 ≤ s.pollJitterFactor && s.pollJitterFactor ≤ 1) then some .jitter
  else if s.salt.isEmpty then some .emptySalt
  else none

def client (s : Settings) : ClientSettings where
  baseUrl := s.oracleUrl
  timeout := .ofSecs s.requestTimeoutSecs.toNat
  userAgent := ClientSettings.standardAgent

def poll (s : Settings) : PollPolicy where
  baseDelay := .ofMillis s.pollBaseDelayMs.toNat
  maxDelay := .ofMillis s.pollMaxDelayMs.toNat
  jitter := s.pollJitterFactor
  backoff := .exponential

def prover (s : Settings) : ProverSettings where
  finalizationTimeout :=
    if s.finalizationTimeoutSecs = 0 then none else some (.ofSecs s.finalizationTimeoutSecs.toNat)
  salt := s.salt

end Settings

end Attestation
