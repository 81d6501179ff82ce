import Attestation.Settings
import Attestation.Settings.Toml
import Attestation.Settings.Variable

/-!
Settings from their layers: the standard values, a settings file over them, and the environment over
both. Types are checked where all layers lie over one another.
-/

namespace Attestation.Settings

inductive Failure
  /-- The file is malformed, or a value has another type. -/
  | unreadable
  | flawed (flaw : Flaw)
  deriving DecidableEq, Repr

/-- The value of a key in a layer; the given value stands in where the layer has none. -/
def field? {α : Type} (layer : Layer) (key : String) (read? : Value → Option α) (default : α) :
    Option α :=
  match layer.find? key with
  | none => some default
  | some v => read? v

def ofLayer? (layer : Layer) : Option Settings := do
  return {
    oracleUrl := ← field? layer "oracle_url" Value.text? standard.oracleUrl
    requestTimeoutSecs :=
      ← field? layer "request_timeout_secs" Value.uint64? standard.requestTimeoutSecs
    pollBaseDelayMs := ← field? layer "poll_base_delay_ms" Value.uint64? standard.pollBaseDelayMs
    pollMaxDelayMs := ← field? layer "poll_max_delay_ms" Value.uint64? standard.pollMaxDelayMs
    pollJitterFactor := ← field? layer "poll_jitter_factor" Value.float? standard.pollJitterFactor
    finalizationTimeoutSecs :=
      ← field? layer "finalization_timeout_secs" Value.uint64? standard.finalizationTimeoutSecs
    salt := ← field? layer "mic_salt" Value.text? standard.salt
    logFilter := ← field? layer "rust_log" Value.text? standard.logFilter }

def check (s : Settings) : Except Failure Settings :=
  match s.flaw? with
  | some flaw => .error (.flawed flaw)
  | none => .ok s

/-- The settings that a file, if there is one, and the environment make up. -/
def load (file : Option String) (environment : List (String × String)) :
    Except Failure Settings := do
  let fromFile : Option Layer := match file with
    | none => some []
    | some text => Toml.layer? text
  let some below := fromFile | throw .unreadable
  let some s := ofLayer? (below ++ Variable.layer environment) | throw .unreadable
  s.check

end Attestation.Settings
