/-!
# Settings of the generated project

How the project is named, set up and probed.
-/

namespace SignatureAudit

/-- Settings of the generated project. -/
structure ProjectSettings where
  name : String := "generated"
  languages : List String := ["c", "java"]
  /-- Arguments of the one run that sets the project up, in the project directory. -/
  setupArgs : List String := ["setup", "builddir"]
  /-- Arguments of every probe, run in the build directory. -/
  reconfigureArgs : List String := ["--reconfigure"]
  buildDirectory : String := "builddir"
  warningsAsErrors : Bool := false
  /-- A directory whose entries are copied into the project before it is set up. -/
  fixtures : Option String := none
  deriving DecidableEq, Repr

/-- The first line of the build file. -/
def ProjectSettings.projectLine (s : ProjectSettings) : String :=
  "project('" ++ s.name ++ "', ["
    ++ ", ".intercalate (s.languages.map fun language => "'" ++ language ++ "'") ++ "])"

end SignatureAudit
