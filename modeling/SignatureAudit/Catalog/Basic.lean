import SignatureAudit.Hierarchy.Basic
import SignatureAudit.Signature.Basic

/-!
# The catalog

The catalog knows every checked function, and every type with its methods. A type inherits the
methods of its ancestors: `methodsOf` lists what can be called on a value of a type, the nearest
declaration of a name hiding those further up.
-/

namespace SignatureAudit

/-- A type with the methods that it declares itself. -/
structure TypeInfo where
  name : String
  parent : Option String
  methods : List Callable
  deriving DecidableEq, Repr

/-- A method together with the type that declares it. -/
structure MethodRef where
  declaredOn : TypeInfo
  callable : Callable
  deriving DecidableEq, Repr

/-- Every checked callable and type. -/
structure Catalog where
  functions : List Callable
  types : List TypeInfo
  hierarchy : Hierarchy
  deriving DecidableEq, Repr

namespace TypeInfo

/-- The method of the given name that the type declares itself. -/
def method? (t : TypeInfo) (name : String) : Option Callable := t.methods.find? (·.name == name)

/-- The methods that the type declares itself, as seen from any type that inherits them. -/
def methodRefs (t : TypeInfo) : List MethodRef := t.methods.map (⟨t, ·⟩)

end TypeInfo

namespace Catalog

/-- The function of the given name. -/
def function? (c : Catalog) (name : String) : Option Callable := c.functions.find? (·.name == name)

/-- The type of the given name. -/
def type? (c : Catalog) (name : String) : Option TypeInfo := c.types.find? (·.name == name)

/-- The type that carries the methods of values of a type; unions, anything and the absent
argument have none. -/
def owner? (c : Catalog) (t : TypeExpr) : Option TypeInfo := t.methodOwner?.bind c.type?

/-- The methods that can be called on a value of the named type: its own first, then those of each
ancestor, nearest first, less the names that were seen before. -/
def methodsOf (c : Catalog) (name : String) : List MethodRef :=
  unseen (·.callable.name) []
    (((c.hierarchy.ancestors name).filterMap c.type?).flatMap TypeInfo.methodRefs)

/-- The walk along the ancestors keeps the first method of each name. -/
theorem methodsOf_eq_distinctOn (c : Catalog) (name : String) : c.methodsOf name
    = distinctOn (·.callable.name)
      (((c.hierarchy.ancestors name).filterMap c.type?).flatMap TypeInfo.methodRefs) :=
  unseen_nil _

/-- Every callable, the functions before the methods. -/
def callables (c : Catalog) : List Callable := c.functions ++ c.types.flatMap (·.methods)

/-- Whether a name is asked for; no names ask for everything. -/
def wanted (names : List String) (name : String) : Bool := names.isEmpty || names.contains name

/-- The types and the functions whose names are asked for. -/
def select (c : Catalog) (names : List String) : List TypeInfo × List Callable :=
  (c.types.filter (wanted names ·.name), c.functions.filter (wanted names ·.name))

end Catalog

end SignatureAudit
