import SignatureAudit.Template.Document
import SignatureAudit.Template.Expansion
import SignatureAudit.TypeExpr.Reader

/-!
# Templates

The loaded templates answer which literal to write for a value of a type, given the callables and
the parameter that it is for. Of the overrides only those of the first callable that has any are
consulted: for the parameter at the type, for the parameter, for the type; then the defaults. Types
are compared by their canonical text, and of several entries the last one loaded counts.
-/

namespace SignatureAudit

/-- The templates of one callable. -/
structure OverrideSet where
  receiver : Option String
  /-- Templates by parameter and canonical type. -/
  typedParams : List ((String × String) × String)
  /-- Templates by parameter. -/
  params : List (String × String)
  /-- Templates by canonical type. -/
  types : List (String × String)
  deriving DecidableEq, Repr

/-- Literal source text per type, with overrides per callable. -/
structure Templates where
  /-- Templates by canonical type. -/
  defaults : List (String × String)
  /-- Overrides by callable. -/
  overrides : List (String × OverrideSet)
  /-- The project directory, once it is known. -/
  directory : Option String := none
  deriving DecidableEq, Repr

/-- Where a template is asked for. -/
structure Template.Context where
  /-- The callables whose overrides apply, the most specific first. -/
  callables : List String := []
  param : Option String := none
  deriving DecidableEq, Repr

/-- No template exists for a canonical type, asked for in the first of the callables. -/
structure Template.Missing where
  type : String
  callable : Option String
  deriving DecidableEq, Repr

/-- The wording of a missing template. -/
def Template.Missing.message (missing : Template.Missing) : String :=
  "No template found for type " ++ missing.type ++
    match missing.callable with
    | some callable => " (in " ++ callable ++ ")"
    | none => ""

namespace Templates

open Template

/-- The overrides of a callable. -/
def overridesOf? (t : Templates) (callable : String) : Option OverrideSet :=
  t.overrides.lookup callable

/-- The overrides that apply in a context: those of the first callable that has some. -/
def overridesIn? (t : Templates) (context : Context) : Option OverrideSet :=
  context.callables.findSome? t.overridesOf?

/-- The template for a parameter at a canonical type, or for the parameter at any type. -/
def paramTemplate? (set : OverrideSet) (param type : String) : Option String :=
  (lookupLast? (param, type) set.typedParams).or (lookupLast? param set.params)

/-- The template that overrides give for a canonical type and perhaps a parameter. -/
def overrideTemplate? (set : OverrideSet) (param : Option String) (type : String) :
    Option String :=
  (param.bind (paramTemplate? set · type)).or (lookupLast? type set.types)

/-- The template for a type, before expansion. -/
def lookup (t : Templates) (type : TypeExpr) (context : Context) : Except Missing String :=
  let key := type.canonical
  let found := ((t.overridesIn? context).bind (overrideTemplate? · context.param key)).or
    (lookupLast? key t.defaults)
  match found with
  | some template => .ok template
  | none => .error ⟨key, context.callables.head?⟩

/-- Expands a template in the directory of the project. -/
def expand (t : Templates) (text : String) : Naming String := Template.expand t.directory text

/-- The literal for a type; a missing template draws no name. -/
def resolve (t : Templates) (type : TypeExpr) (context : Context) :
    ExceptT Missing Naming String :=
  match t.lookup type context with
  | .ok template => ExceptT.lift (t.expand template)
  | .error missing => throw missing

/-- The template of the literal that a method has to be called on. -/
def receiverTemplate? (t : Templates) (callable : String) : Option String :=
  (t.overridesOf? callable).bind (·.receiver)

/-- The literal that a method has to be called on. -/
def receiver? (t : Templates) (callable : String) : Naming (Option String) :=
  match t.receiverTemplate? callable with
  | some template => some <$> t.expand template
  | none => pure none

/-- Whether a method has to be called on a literal of its own. -/
def requiresReceiver (t : Templates) (callable : String) : Bool :=
  (t.receiverTemplate? callable).isSome

/-- Whether an override names the parameter of the context. -/
def hasOverride (t : Templates) (type : TypeExpr) (context : Context) : Bool :=
  match t.overridesIn? context, context.param with
  | some set, some param => (paramTemplate? set param type.canonical).isSome
  | _, _ => false

/-- Whether the type has a default. -/
def hasDefault (t : Templates) (type : TypeExpr) : Bool :=
  (lookupLast? type.canonical t.defaults).isSome

end Templates

end SignatureAudit
