import Attestation.Poll.Json
import Attestation.Settings

/-!
Settings as JSON. A member that is missing has its standard value.
-/

namespace Attestation

namespace ClientSettings

def names : List String :=
  ["base_url", "timeout", "user_agent"]

def ofJson? (j : Json) : Option ClientSettings := do
  let [baseUrl, timeout, userAgent] ← j.fields? names names.length | none
  return {
    baseUrl := ← Json.need Json.string? baseUrl
    timeout := ← Json.need Duration.ofJson? timeout
    userAgent := ← Json.need Json.string? userAgent }

def toJson (s : ClientSettings) : Json :=
  .object
    [("base_url", .string s.baseUrl), ("timeout", s.timeout.toJson),
     ("user_agent", .string s.userAgent)]

def format : Json.Format ClientSettings := ⟨.plain names, ofJson?, toJson⟩

end ClientSettings

namespace Settings

def names : List String :=
  ["oracle_url", "request_timeout_secs", "poll_base_delay_ms", "poll_max_delay_ms",
   "poll_jitter_factor", "finalization_timeout_secs", "mic_salt", "rust_log"]

def ofJson? (j : Json) : Option Settings := do
  let [oracleUrl, requestTimeoutSecs, pollBaseDelayMs, pollMaxDelayMs, pollJitterFactor,
    finalizationTimeoutSecs, salt, logFilter] ← j.fields? names 0 | none
  return {
    oracleUrl := ← Json.orElse Json.string? standard.oracleUrl oracleUrl
    requestTimeoutSecs :=
      ← Json.orElse Json.uint64? standard.requestTimeoutSecs requestTimeoutSecs
    pollBaseDelayMs := ← Json.orElse Json.uint64? standard.pollBaseDelayMs pollBaseDelayMs
    pollMaxDelayMs := ← Json.orElse Json.uint64? standard.pollMaxDelayMs pollMaxDelayMs
    pollJitterFactor := ← Json.orElse Json.float? standard.pollJitterFactor pollJitterFactor
    finalizationTimeoutSecs :=
      ← Json.orElse Json.uint64? standard.finalizationTimeoutSecs finalizationTimeoutSecs
    salt := ← Json.orElse Json.string? standard.salt salt
    logFilter := ← Json.orElse Json.string? standard.logFilter logFilter }

def toJson (s : Settings) : Json :=
  .object
    [("oracle_url", .string s.oracleUrl),
     ("request_timeout_secs", .nat s.requestTimeoutSecs.toNat),
     ("poll_base_delay_ms", .nat s.pollBaseDelayMs.toNat),
     ("poll_max_delay_ms", .nat s.pollMaxDelayMs.toNat),
     ("poll_jitter_factor", .ofFloat s.pollJitterFactor),
     ("finalization_timeout_secs", .nat s.finalizationTimeoutSecs.toNat),
     ("mic_salt", .string s.salt),
     ("rust_log", .string s.logFilter)]

def format : Json.Format Settings := ⟨.plain names, ofJson?, toJson⟩

end Settings

end Attestation
