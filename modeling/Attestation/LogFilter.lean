import Attestation.Text.Alphanumeric
import Attestation.Text.Blank
import Attestation.Text.Quoted

/-!
Log filters: parts behind one another with commas between them, each a level, a target, a span, or
a target or span with its level. The filter of the environment goes first, and logging is installed
once.
-/

namespace Attestation.LogFilter

def levels : List String :=
  ["off", "error", "warn", "info", "debug", "trace"]

/-- The number of a level, which may begin with a plus and with zeros. -/
def isNumber (cs : List Char) : Bool :=
  let ds := if cs.head? = some '+' then cs.tail else cs
  !ds.isEmpty && ds.all Char.isDigit &&
    ds.foldl (fun n c => 10 * n + (c.toNat - 48)) 0 < levels.length

/-- A level by its name in letters of either case, or by its number. -/
def isLevel (cs : List Char) : Bool :=
  levels.contains (String.ofList (cs.map Char.toLower)) || isNumber cs

/-- With what a target may begin. -/
def begins (c : Char) : Bool :=
  Text.Alphanumeric.isAlphanumeric c || c == '-' || c == ':' || c == '_'

/-- Nothing, or a level; an equals sign by itself means all levels. No level is found in a part with
white space around it. -/
def endsInLevel (spaced : Bool) : List Char → Bool
  | [] => true
  | '=' :: level => !spaced && (level.isEmpty || isLevel level)
  | _ => false

/-- What stands behind the bracket of a span: its name and perhaps, in braces, fields of it. -/
def span (spaced : Bool) (cs : List Char) : Bool :=
  match cs.dropWhile fun c => c != ']' && c != '\x7b' with
  | ']' :: r => endsInLevel spaced r
  | '\x7b' :: r =>
    match r.dropWhile (· != '\x7d') with
    | '\x7d' :: ']' :: rest => r.head? != some '\x7d' && endsInLevel spaced rest
    | _ => false
  | _ => false

/-- A target, a span or both, and perhaps a level. -/
def isPart (cs : List Char) : Bool :=
  let trimmed := Text.trim cs
  let spaced := trimmed != cs
  match trimmed with
  | [] => false
  | '[' :: r => span spaced r
  | c :: r =>
    begins c && match r.dropWhile fun c => c != '=' && c != '[' with
      | '[' :: r => span spaced r
      | r => endsInLevel spaced r

/-- Empty parts say nothing. -/
def isWellFormed (filter : String) : Bool :=
  (filter.splitOn ",").all fun part => part.isEmpty || isPart part.toList

inductive Failure
  | malformed (filter : String)
  | installed
  deriving DecidableEq, Repr

def Failure.message : Failure → String
  | malformed filter => "invalid log filter " ++ Text.Quoted.quote filter
  | installed => "tracing subscriber already installed"

/-- Installs logging where it is not installed yet. A well-formed filter of the environment is used
in place of the given one. -/
def install (installed : Bool) (environment : Option String) (filter : String) :
    Except Failure Unit :=
  if !environment.any isWellFormed && !isWellFormed filter then .error (.malformed filter)
  else if installed then .error .installed
  else .ok ()

end Attestation.LogFilter
