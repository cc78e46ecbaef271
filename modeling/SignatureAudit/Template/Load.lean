import SignatureAudit.Template.Basic

/-!
# Loading templates

Every type key of a document is read and kept in canonical form, so that two spellings of one type
are one key. Keys are judged in their order: the defaults first, then the overrides of each
callable.
-/

namespace SignatureAudit.Template

/-- Why a document gives no templates. -/
inductive Fault
  /-- The text is no template document. -/
  | document
  /-- Only the first version of the layout is known. -/
  | schema (version : Nat)
  /-- A type key cannot be read. -/
  | key (error : TypeExpr.Malformed)
  deriving DecidableEq, Repr

/-- The wording of a fault. -/
def Fault.message : Fault → String
  | .document => "Template parse error"
  | .schema version => "Unsupported template schema version " ++ toString version
  | .key error => "Invalid template key: " ++ error.message

/-- The canonical form of a type key. -/
def canonicalKey (expr : String) : Except Fault String :=
  match TypeExpr.read expr with
  | .ok type => .ok type.canonical
  | .error error => .error (.key error)

/-- Templates by type, their keys made canonical. -/
def byType (entries : List (String × String)) : Except Fault (List (String × String)) :=
  entries.mapM fun (expr, template) => do
    let key ← canonicalKey expr
    .ok (key, template)

/-- The overrides of one callable. -/
def OverrideEntry.load (entry : OverrideEntry) : Except Fault OverrideSet := do
  let typedParams ← entry.typedParams.mapM fun typed => do
    let key ← canonicalKey typed.type
    .ok ((typed.name, key), typed.template)
  let types ← byType entry.types
  .ok ⟨entry.receiver, typedParams, entry.params, types⟩

/-- The templates that a document gives, or its first fault. -/
def ofDocument (d : Document) : Except Fault Templates :=
  if d.schemaVersion ≠ 1 then .error (.schema d.schemaVersion)
  else do
    let defaults ← byType d.defaults
    let overrides ← d.overrides.mapM fun (callable, entry) => do
      let set ← entry.load
      .ok (callable, set)
    .ok { defaults, overrides }

/-- The templates that a JSON text gives, or its first fault. -/
def load (text : String) : Except Fault Templates :=
  match Document.read? text with
  | none => .error .document
  | some document => ofDocument document

end SignatureAudit.Template
