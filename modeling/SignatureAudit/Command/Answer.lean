import SignatureAudit.Project.Fault
import SignatureAudit.Settings.Environment

/-!
# How a command ends

A command prints something and ends well, fails, or was misused. The exit code tells these apart.
-/

namespace SignatureAudit.Command

/-- Why a command failed. -/
inductive Fault
  /-- The settings file cannot be read. -/
  | unreadableSettings (path : String)
  | invalidSettings (path : String)
  | environment (fault : Settings.NotSeconds)
  | settings (problem : Settings.Problem)
  /-- The catalog cannot be loaded. -/
  | catalog (path : String)
  | bundledCatalog
  /-- The templates cannot be loaded. -/
  | templates (path : String)
  | bundledTemplates
  /-- The project cannot be set up. -/
  | setup
  /-- The audit broke off. -/
  | audit (fault : Project.Fault)
  deriving DecidableEq, Repr

/-- The wording of a fault. -/
def Fault.message : Fault → String
  | .unreadableSettings path => "Failed to read config " ++ path
  | .invalidSettings path => "Invalid config " ++ path
  | .environment fault => fault.message
  | .settings problem => "Invalid configuration: " ++ problem.message
  | .catalog path => "Failed to load catalog " ++ path
  | .bundledCatalog => "Bundled catalog is invalid"
  | .templates path => "Failed to load templates " ++ path
  | .bundledTemplates => "Bundled templates are invalid"
  | .setup => "Could not configure the generated project"
  | .audit fault => fault.message

/-- How a command ends. -/
inductive Ending
  | done
  | failed (fault : Fault)
  /-- The arguments are against the rules. -/
  | misused
  deriving DecidableEq, Repr

/-- The exit code. -/
def Ending.code : Ending → Nat
  | .done => 0
  | .failed _ => 1
  | .misused => 2

/-- What a command prints and how it ends. -/
structure Answer where
  printed : String := ""
  ending : Ending := .done
  deriving DecidableEq, Repr

end SignatureAudit.Command
