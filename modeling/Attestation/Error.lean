import Attestation.Kind
import Attestation.Text.Quoted

/-!
Causes of failure and their wording. A `Flaw` makes a scheme definition unusable, an `Error` comes
from the codec, the registry and the hashes, a `Fault` from a proof flow.
-/

namespace Attestation

inductive Flaw
  | unnumbered
  | misnumbered (declared encoded : UInt16)
  | unknownKind (id : UInt16)
  | noSources
  | width (key : String) (bytes : Nat)
  | repeatedKey (key : String)
  | unbound (key : String) (kind : Kind)
  | misbound (key : String) (declared bound : FieldKind)
  | repeatedId (id : UInt16)
  | mistyped (key : String) (declared : FieldKind)
  | undecodable (key : String) (kind : Kind)
  | stated (reason : String)
  deriving DecidableEq, Repr

namespace Flaw

def message : Flaw → String
  | unnumbered => "name does not encode an id"
  | misnumbered declared encoded =>
    s!"declared id {declared} does not match encoded id {encoded}"
  | unknownKind id => s!"unknown attestation type {id}"
  | noSources => "no supported sources"
  | width key bytes => s!"field {key} has width {bytes}"
  | repeatedKey key => s!"field {key} declared twice"
  | unbound key kind => s!"field {key} has no binding for {kind.name}"
  | misbound key declared bound =>
    s!"field {key} is declared {declared.name} but bound as {bound.name}"
  | repeatedId id => s!"duplicate attestation type id {id}"
  | mistyped key declared => s!"field {key} is declared {declared.name} but bound to another kind"
  | undecodable key kind => s!"field {key} cannot be decoded into a {kind.name} request"
  | stated reason => reason

end Flaw

inductive Error
  | unsupportedKind (id : UInt16)
  | unsupportedSource (kind : UInt16) (source : UInt32)
  | invalidScheme (name : String) (flaw : Flaw)
  | missingField (key : String)
  | fieldTooLong (key : String) (width actual : Nat)
  | negativeValue (key : String)
  | invalidNumber (text : String)
  | malformedRequest (expected actual : Nat)
  | responseMismatch (request response : UInt16)
  | invalidHash (text : String)
  deriving DecidableEq, Repr

namespace Error

def message : Error → String
  | unsupportedKind id => s!"unsupported attestation type {id}"
  | unsupportedSource kind source =>
    s!"source {source} is not supported by attestation type {kind}"
  | invalidScheme name flaw => s!"invalid scheme definition {name}: {flaw.message}"
  | missingField key => s!"missing value for field {key}"
  | fieldTooLong key width actual =>
    s!"field {key} needs {actual} bytes but is {width} bytes wide"
  | negativeValue key => s!"field {key} does not accept negative values"
  | invalidNumber text => "invalid number " ++ Text.Quoted.quote text
  | malformedRequest expected actual =>
    s!"malformed request: expected {expected} bytes, got {actual}"
  | responseMismatch request response =>
    s!"response of type {response} does not match request of type {request}"
  | invalidHash text => "invalid hash " ++ Text.Quoted.quote text

/-- The word by which callers tell errors apart. -/
def code : Error → String
  | unsupportedKind _ => "UnsupportedAttestationType"
  | unsupportedSource _ _ => "UnsupportedSource"
  | invalidScheme _ _ => "InvalidScheme"
  | missingField _ => "MissingField"
  | fieldTooLong _ _ _ => "FieldTooLong"
  | negativeValue _ => "NegativeValueUnsupported"
  | invalidNumber _ => "InvalidNumber"
  | malformedRequest _ _ => "MalformedRequest"
  | responseMismatch _ _ => "ResponseTypeMismatch"
  | invalidHash _ => "InvalidHash"

/-- Errors of the scheme tables, which no caller can mend. -/
def isConfiguration : Error → Bool
  | unsupportedKind _ | invalidScheme _ _ => true
  | _ => false

def isCaller (e : Error) : Bool :=
  !e.isConfiguration

end Error

inductive Fault
  | attestation (error : Error)
  | subjectNotFound (subject : String) (height : UInt64)
  | overflowNotFound (deadlineBlock deadlineTimestamp height : UInt64)
  | ledger (reason : String)
  | oracleUnavailable (reason : String)
  | timeout (seconds : UInt64)
  | oracleRefused (status : UInt16) (body : String)
  | oracleFailed (status : UInt16) (body : String)
  | invalidResponse (reason : String)
  | finalizationTimeout (round : UInt64)
  | cancelled
  | configuration (reason : String)
  deriving DecidableEq, Repr

namespace Fault

def message : Fault → String
  | attestation error => error.message
  | subjectNotFound subject height => s!"{subject} not found on source ledger at height {height}"
  | overflowNotFound deadlineBlock deadlineTimestamp height =>
    s!"no overflow block after block {deadlineBlock} and timestamp {deadlineTimestamp} " ++
      s!"at height {height}"
  | ledger reason => s!"source ledger error: {reason}"
  | oracleUnavailable reason => s!"oracle network unavailable: {reason}"
  | timeout seconds => s!"oracle request timeout after {seconds}s"
  | oracleRefused status _ => s!"oracle client error: HTTP {status}"
  | oracleFailed status _ => s!"oracle server error: HTTP {status}"
  | invalidResponse reason => s!"invalid oracle response: {reason}"
  | finalizationTimeout round => s!"round {round} did not finalize in time"
  | cancelled => "proof flow cancelled"
  | configuration reason => s!"invalid client configuration: {reason}"

def code : Fault → String
  | attestation error => error.code
  | subjectNotFound _ _ => "SubjectNotFound"
  | overflowNotFound _ _ _ => "OverflowBlockNotFound"
  | ledger _ => "Ledger"
  | oracleUnavailable _ => "OracleUnavailable"
  | timeout _ => "Timeout"
  | oracleRefused _ _ => "OracleClientError"
  | oracleFailed _ _ => "OracleServerError"
  | invalidResponse _ => "InvalidResponse"
  | finalizationTimeout _ => "FinalizationTimeout"
  | cancelled => "Cancelled"
  | configuration _ => "Configuration"

/-- Failures of the oracle network that may have passed when it is asked again. -/
def isRetryable : Fault → Bool
  | oracleUnavailable _ | timeout _ | oracleFailed _ _ => true
  | _ => false

def isCaller : Fault → Bool
  | attestation error => error.isCaller
  | oracleRefused _ _ | configuration _ => true
  | _ => false

def isNotFound : Fault → Bool
  | subjectNotFound _ _ | overflowNotFound _ _ _ => true
  | _ => false

/-- The ledger height at which a look-up failed. -/
def height? : Fault → Option UInt64
  | subjectNotFound _ height | overflowNotFound _ _ height => some height
  | _ => none

end Fault

end Attestation
