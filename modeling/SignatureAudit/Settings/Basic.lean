import SignatureAudit.Duration
import SignatureAudit.Project.Settings
import SignatureAudit.Text.Blank

/-!
# Settings

The settings of an audit. They start from defaults, over which a settings file, the environment and
the command line are laid in this order; `Settings.problem?` judges what comes out.
-/

namespace SignatureAudit

/-- The settings of an audit. -/
structure Settings where
  /-- The program of the build tool. -/
  tool : String := "meson"
  /-- How the project is generated; fixtures are left out if their directory does not exist. -/
  project : ProjectSettings := { fixtures := some "template_files" }
  verbose : Bool := false
  /-- How long one run of the tool may take. -/
  timeoutSeconds : Option Nat := none
  /-- How many combinations of a signature are tried. -/
  maxCombinations : Option Nat := none
  /-- The file of another catalog than the bundled one. -/
  catalog : Option String := none
  /-- The file of other templates than the bundled ones. -/
  templates : Option String := none
  deriving DecidableEq, Repr

namespace Settings

/-- What is wrong with settings. -/
inductive Problem
  | noTool
  | noLanguage
  | noBuildDirectory
  | zeroTimeout
  | zeroCombinations
  deriving DecidableEq, Repr

/-- The wording of a problem. -/
def Problem.message : Problem → String
  | .noTool => "meson program must not be empty"
  | .noLanguage => "at least one project language is required"
  | .noBuildDirectory => "build_dir must not be empty"
  | .zeroTimeout => "timeout_secs must be > 0"
  | .zeroCombinations => "max_combinations must be > 0"

/-- The first thing that is wrong. -/
def problem? (s : Settings) : Option Problem :=
  if Text.isAllBlank s.tool then some .noTool
  else if s.project.languages.isEmpty then some .noLanguage
  else if Text.isAllBlank s.project.buildDirectory then some .noBuildDirectory
  else if s.timeoutSeconds = some 0 then some .zeroTimeout
  else if s.maxCombinations = some 0 then some .zeroCombinations
  else none

/-- How long one run of the tool may take. -/
def timeout (s : Settings) : Option Duration := s.timeoutSeconds.map .ofSeconds

/-- How the project is generated, given which directories exist. -/
def projectSettings (s : Settings) (isDirectory : String → Bool) : ProjectSettings :=
  { s.project with fixtures := s.project.fixtures.filter isDirectory }

end Settings

end SignatureAudit
