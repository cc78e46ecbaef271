import SignatureAudit.Json.Record

/-!
# Catalog documents

A catalog document lists functions and types with their methods as text: parameter declarations
and return types are read only when the catalog is built. Parameter sets are named lists of
declarations that several callables share.
-/

namespace SignatureAudit.Catalog

/-- A function or method, one overload of it, as a document gives it. -/
structure CallableEntry where
  name : String
  params : List String := []
  returns : String := "None"
  deriving DecidableEq, Repr

/-- A type as a document gives it. -/
structure TypeEntry where
  name : String
  parent : Option String := none
  methods : List CallableEntry := []
  deriving DecidableEq, Repr

/-- The contents of a catalog document. -/
structure Document where
  schemaVersion : Nat := 0
  /-- Declarations by the name of their set. -/
  paramSets : List (String × List String) := []
  functions : List CallableEntry := []
  types : List TypeEntry := []
  deriving DecidableEq, Repr

open Json

/-- Reads a callable. -/
def CallableEntry.ofJson? (json : Json) : Option CallableEntry := do
  match ← record? ["name", "params", "returns"] json with
  | [some name, params, returns] =>
    some ⟨← string? name, ← field? (list? string?) [] params, ← field? string? "None" returns⟩
  | _ => none

/-- Reads a type. -/
def TypeEntry.ofJson? (json : Json) : Option TypeEntry := do
  match ← record? ["name", "parent", "methods"] json with
  | [some name, parent, methods] =>
    some ⟨← string? name, ← field? (nullable? string?) none parent,
      ← field? (list? CallableEntry.ofJson?) [] methods⟩
  | _ => none

/-- Reads a catalog document. -/
def Document.ofJson? (json : Json) : Option Document := do
  match ← record? ["schema_version", "param_sets", "functions", "types"] json with
  | [version, sets, functions, types] =>
    some ⟨← field? (natural? 32) 0 version, ← field? (map? (list? string?)) [] sets,
      ← field? (list? CallableEntry.ofJson?) [] functions,
      ← field? (list? TypeEntry.ofJson?) [] types⟩
  | _ => none

/-- The document that a JSON text gives. -/
def Document.read? (text : String) : Option Document := (Json.read? text).bind ofJson?

end SignatureAudit.Catalog
