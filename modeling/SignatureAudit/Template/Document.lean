import SignatureAudit.Json.Record

/-!
# Template documents

A template document gives literal source text per type: defaults for every call, and overrides for
single callables. Types are written as expressions and read only when the templates are loaded.
-/

namespace SignatureAudit.Template

/-- The template of one parameter at one type. -/
structure TypedParamEntry where
  name : String
  type : String
  template : String
  deriving DecidableEq, Repr

/-- What a document gives for one callable. -/
structure OverrideEntry where
  /-- The literal that a method is called on. -/
  receiver : Option String := none
  /-- Templates by parameter. -/
  params : List (String × String) := []
  typedParams : List TypedParamEntry := []
  /-- Templates by type, for any parameter. -/
  types : List (String × String) := []
  deriving DecidableEq, Repr

/-- The contents of a template document. -/
structure Document where
  schemaVersion : Nat := 1
  /-- Templates by type. -/
  defaults : List (String × String) := []
  /-- Overrides by callable. -/
  overrides : List (String × OverrideEntry) := []
  deriving DecidableEq, Repr

open Json

/-- Reads the template of one parameter at one type. -/
def TypedParamEntry.ofJson? (json : Json) : Option TypedParamEntry := do
  match ← record? ["name", "type", "template"] json with
  | [some name, some type, some template] =>
    some ⟨← string? name, ← string? type, ← string? template⟩
  | _ => none

/-- Reads the overrides of one callable. -/
def OverrideEntry.ofJson? (json : Json) : Option OverrideEntry := do
  match ← record? ["receiver", "params", "typed_params", "types"] json with
  | [receiver, params, typedParams, types] =>
    some ⟨← field? (nullable? string?) none receiver, ← field? (map? string?) [] params,
      ← field? (list? TypedParamEntry.ofJson?) [] typedParams, ← field? (map? string?) [] types⟩
  | _ => none

/-- Reads a template document. -/
def Document.ofJson? (json : Json) : Option Document := do
  match ← record? ["schema_version", "defaults", "overrides"] json with
  | [version, defaults, overrides] =>
    some ⟨← field? (natural? 32) 1 version, ← field? (map? string?) [] defaults,
      ← field? (map? OverrideEntry.ofJson?) [] overrides⟩
  | _ => none

/-- The document that a JSON text gives. -/
def Document.read? (text : String) : Option Document := (Json.read? text).bind ofJson?

end SignatureAudit.Template
