import SignatureAudit.Settings.Basic
import SignatureAudit.Text.Digit

/-!
# Settings in the environment

Two variables of the environment can change settings. A blank value counts as none. The program is
taken as it stands, while the number of seconds may have blanks around it.
-/

namespace SignatureAudit.Settings

/-- The variable that names the program of the build tool. -/
def toolName : String := "SIGCHECK_MESON"

/-- The variable that limits the time of one run of the tool. -/
def timeoutName : String := "SIGCHECK_TIMEOUT_SECS"

/-- A time limit that is no number of seconds. -/
structure NotSeconds where
  given : String
  deriving DecidableEq, Repr

/-- The wording of the fault. -/
def NotSeconds.message (fault : NotSeconds) : String :=
  timeoutName ++ " must be a number of seconds, got '" ++ fault.given ++ "'"

/-- The value of a name in an environment, if it is not blank. -/
def given? (environment : String → Option String) (name : String) : Option String :=
  (environment name).filter fun value => !Text.isAllBlank value

/-- Settings with the program that the environment names. -/
def withToolFrom (environment : String → Option String) (s : Settings) : Settings :=
  { s with tool := (given? environment toolName).getD s.tool }

/-- Settings with the time limit that the environment gives. -/
def withTimeoutFrom (environment : String → Option String) (s : Settings) :
    Except NotSeconds Settings :=
  match given? environment timeoutName with
  | none => .ok s
  | some value =>
    match Text.readWord64? (Text.trim value) with
    | some seconds => .ok { s with timeoutSeconds := some seconds }
    | none => .error ⟨value⟩

/-- Settings with an environment laid over them. The program is taken from it even if the time limit
is at fault. -/
def withEnvironment (environment : String → Option String) (s : Settings) :
    Settings × Option NotSeconds :=
  let s := s.withToolFrom environment
  match s.withTimeoutFrom environment with
  | .ok s => (s, none)
  | .error fault => (s, some fault)

end SignatureAudit.Settings
