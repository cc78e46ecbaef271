import SignatureAudit.Settings.Basic
import SignatureAudit.Toml.Reader

/-!
# Settings files

A settings file is a TOML document. A key that is not given keeps its default, a key that is no
setting is ignored, and a value of the wrong kind makes the whole file invalid.
-/

namespace SignatureAudit

namespace Toml

/-- The value of a string. -/
def text? : Toml → Option String
  | .string text => some text
  | _ => none

/-- The value of a truth value. -/
def flag? : Toml → Option Bool
  | .boolean value => some value
  | _ => none

/-- The value of an integer that is not negative. -/
def natural? : Toml → Option Nat
  | .integer (.ofNat n) => some n
  | _ => none

/-- The items of an array of strings. -/
def texts? : Toml → Option (List String)
  | .array items => items.mapM text?
  | _ => none

/-- The value of a key, read by `value?`; a key that is not given keeps `kept`. -/
def field? {α : Type} (entries : Entries) (key : String) (value? : Toml → Option α) (kept : α) :
    Option α :=
  match entries.lookup key with
  | none => some kept
  | some value => value? value

end Toml

namespace Settings

open Toml (field? text? flag? natural? texts?)

/-- The settings that the entries of a document change. -/
def ofEntries? (entries : Toml.Entries) : Option Settings := do
  let base : Settings := {}
  let optional {α : Type} (value? : Toml → Option α) (value : Toml) : Option (Option α) :=
    (value? value).map some
  some {
    tool := ← field? entries "meson" text? base.tool
    project := {
      name := ← field? entries "project_name" text? base.project.name
      languages := ← field? entries "languages" texts? base.project.languages
      setupArgs := ← field? entries "setup_args" texts? base.project.setupArgs
      reconfigureArgs := ← field? entries "reconfigure_args" texts? base.project.reconfigureArgs
      buildDirectory := ← field? entries "build_dir" text? base.project.buildDirectory
      warningsAsErrors := ← field? entries "warnings_as_errors" flag? base.project.warningsAsErrors
      fixtures := ← field? entries "fixtures" (optional text?) base.project.fixtures }
    verbose := ← field? entries "verbose" flag? base.verbose
    timeoutSeconds := ← field? entries "timeout_secs" (optional natural?) none
    maxCombinations := ← field? entries "max_combinations" (optional natural?) none
    catalog := ← field? entries "catalog" (optional text?) none
    templates := ← field? entries "templates" (optional text?) none }

/-- The settings of a settings file. -/
def read? (text : String) : Option Settings := do ofEntries? (← Toml.read? text)

end Settings

end SignatureAudit
