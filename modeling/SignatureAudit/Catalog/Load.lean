import SignatureAudit.Catalog.Basic
import SignatureAudit.Catalog.Document

/-!
# Building a catalog from a document

A document is judged in a fixed order: the hierarchy of its types, then the functions, then the
methods of each type, and last whether every type that a signature names is declared. The first
fault is the answer.
-/

namespace SignatureAudit.Catalog

/-- Why a document makes no catalog. -/
inductive Fault
  /-- The text is no catalog document. -/
  | document
  | hierarchy (fault : Hierarchy.Fault)
  /-- A splice names a parameter set that does not exist. -/
  | unknownParamSet (set owner : String)
  /-- A parameter declaration or its type cannot be read. -/
  | parameter (error : Parameter.Malformed)
  /-- A return type cannot be read. -/
  | returns (error : TypeExpr.Malformed)
  /-- A signature names a type that is not declared. -/
  | unknownType (name context : String)
  deriving DecidableEq, Repr

/-- The wording of a fault. -/
def Fault.message : Fault → String
  | .document => "Catalog parse error"
  | .hierarchy fault => fault.message
  | .unknownParamSet set owner => "Unknown parameter set '" ++ set ++ " (in " ++ owner ++ ")'"
  | .parameter error => error.message
  | .returns error => error.message
  | .unknownType name context => "Unknown type '" ++ name ++ "' referenced by " ++ context

/-- The declarations that an item of a parameter list stands for: `..name` stands for those of a
parameter set, anything else for itself. -/
def splice (sets : List (String × List String)) (owner item : String) :
    Except Fault (List String) :=
  match Text.dropFront? ".." (Text.trim item) with
  | none => .ok [item]
  | some set =>
    match sets.lookup set with
    | some declarations => .ok declarations
    | none => .error (.unknownParamSet set owner)

/-- The signature of an entry: its splices are replaced first, then its parameters are read, then
its return type. -/
def CallableEntry.signature (entry : CallableEntry) (receiver : Option String)
    (sets : List (String × List String)) : Except Fault Signature := do
  let declarations ← entry.params.mapM (splice sets (callableId receiver entry.name))
  let params ← (Parameter.readAll false declarations.flatten).mapError Fault.parameter
  let returns ← (TypeExpr.read entry.returns).mapError Fault.returns
  .ok ⟨entry.name, receiver, params, returns⟩

/-- The callables of a receiver after one more entry, which is an overload of one of them or makes
a new one. -/
def addEntry (receiver : Option String) (sets : List (String × List String))
    (callables : List Callable) (entry : CallableEntry) : Except Fault (List Callable) := do
  let s ← entry.signature receiver sets
  .ok (Callable.addOverload receiver s callables)

/-- The callables of some entries with one receiver, which are added one by one. -/
def callablesOf (receiver : Option String) (sets : List (String × List String))
    (entries : List CallableEntry) : Except Fault (List Callable) :=
  entries.foldlM (addEntry receiver sets) []

/-- The types that a signature mentions, each with the place where it stands. -/
def mentions (s : Signature) : List (TypeExpr × String) :=
  (s.params.map fun p => (p.type, "parameter '" ++ p.name ++ "' of " ++ s.id))
    ++ [(s.returns, "return type of " ++ s.id)]

/-- The first name in a type that is not declared. -/
def undeclared? (h : Hierarchy) (mention : TypeExpr × String) : Option Fault :=
  (mention.1.names.find? fun name => !h.contains name).map (Fault.unknownType · mention.2)

/-- The first type that a signature of the catalog names without a declaration. -/
def firstUndeclared? (c : Catalog) : Option Fault :=
  ((c.callables.flatMap (·.overloads)).flatMap mentions).findSome? (undeclared? c.hierarchy)

/-- The catalog that a document describes, or its first fault. -/
def ofDocument (d : Document) : Except Fault Catalog := do
  let hierarchy ← (Hierarchy.ofRows (d.types.map fun t => (t.name, t.parent))).mapError .hierarchy
  let functions ← callablesOf none d.paramSets d.functions
  let types ← d.types.mapM fun t => do
    let methods ← callablesOf (some t.name) d.paramSets t.methods
    .ok ⟨t.name, t.parent, methods⟩
  let catalog : Catalog := ⟨functions, types, hierarchy⟩
  match firstUndeclared? catalog with
  | some fault => .error fault
  | none => .ok catalog

/-- The catalog that a JSON text describes, or its first fault. -/
def load (text : String) : Except Fault Catalog :=
  match Document.read? text with
  | none => .error .document
  | some document => ofDocument document

end SignatureAudit.Catalog
