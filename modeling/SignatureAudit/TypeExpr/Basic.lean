import SignatureAudit.Distinct

/-!
# Type expressions

A type expression says which values a parameter takes or a call returns: a named category of
objects, an array, one of several arms, anything, or the absent argument. `canonical` is the text
by which an expression is known everywhere else. `unionOf` is the union as the notation means it:
nested unions are flattened, a repeated arm counts once, and a union of one arm is that arm.
-/

namespace SignatureAudit

/-- The values that a parameter takes or a call returns. -/
inductive TypeExpr
  /-- A category of objects, such as `Boolean` or `Executable`. -/
  | named (name : String)
  /-- An array of anything. -/
  | array
  /-- An array whose elements have the given type. -/
  | arrayOf (elem : TypeExpr)
  /-- One of several arms, in the order of their declaration. -/
  | union (arms : List TypeExpr)
  /-- Unconstrained. -/
  | any
  /-- The mark of an absent argument. -/
  | none
  deriving Repr, Inhabited

namespace TypeExpr

mutual

/-- Whether two expressions are written alike. -/
def same : TypeExpr → TypeExpr → Bool
  | .named m, .named n => m == n
  | .array, .array => true
  | .arrayOf s, .arrayOf t => same s t
  | .union ss, .union ts => sameArms ss ts
  | .any, .any => true
  | .none, .none => true
  | _, _ => false

/-- Whether two lists of arms are written alike. -/
def sameArms : List TypeExpr → List TypeExpr → Bool
  | [], [] => true
  | s :: ss, t :: ts => same s t && sameArms ss ts
  | _, _ => false

end

mutual

theorem same_iff : (s t : TypeExpr) → (same s t = true ↔ s = t)
  | .named m, t => by cases t <;> simp [same]
  | .array, t => by cases t <;> simp [same]
  | .arrayOf s, t => by cases t <;> simp [same, same_iff s]
  | .union ss, t => by cases t <;> simp [same, sameArms_iff ss]
  | .any, t => by cases t <;> simp [same]
  | .none, t => by cases t <;> simp [same]

theorem sameArms_iff : (ss ts : List TypeExpr) → (sameArms ss ts = true ↔ ss = ts)
  | [], ts => by cases ts <;> simp [sameArms]
  | s :: ss, ts => by cases ts <;> simp [sameArms, same_iff s, sameArms_iff ss]

end

instance : DecidableEq TypeExpr := fun s t => decidable_of_iff (same s t = true) (same_iff s t)

mutual

/-- The text of an expression, without blanks. -/
def canonical : TypeExpr → String
  | .named name => name
  | .array => "Array"
  | .arrayOf elem => "Array[" ++ canonical elem ++ "]"
  | .union arms => "Union[" ++ canonicalArms arms ++ "]"
  | .any => "Any"
  | .none => "None"

/-- The texts of the arms of a union, with a comma between two. -/
def canonicalArms : List TypeExpr → String
  | [] => ""
  | [arm] => canonical arm
  | arm :: next :: rest => canonical arm ++ "," ++ canonicalArms (next :: rest)

end

mutual

/-- The names of object categories in an expression, in the order of their appearance. -/
def names : TypeExpr → List String
  | .named name => [name]
  | .arrayOf elem => names elem
  | .union arms => namesOfArms arms
  | _ => []

/-- The names of object categories in the arms of a union. -/
def namesOfArms : List TypeExpr → List String
  | [] => []
  | arm :: rest => names arm ++ namesOfArms rest

end

mutual

/-- The constituents of a type that are no unions: its own arms at any depth of union nesting. -/
def leaves : TypeExpr → List TypeExpr
  | .union arms => leavesOfArms arms
  | t => [t]

/-- The constituents of the arms of a union. -/
def leavesOfArms : List TypeExpr → List TypeExpr
  | [] => []
  | arm :: rest => leaves arm ++ leavesOfArms rest

end

theorem namesOfArms_eq (arms : List TypeExpr) : namesOfArms arms = arms.flatMap names := by
  induction arms with
  | nil => rfl
  | cons arm rest ih => simp [namesOfArms, ih]

theorem leavesOfArms_eq (arms : List TypeExpr) : leavesOfArms arms = arms.flatMap leaves := by
  induction arms with
  | nil => rfl
  | cons arm rest ih => simp [leavesOfArms, ih]

/-- The name of the type that carries the methods of a value: arrays share those of `Array`. -/
def methodOwner? : TypeExpr → Option String
  | .named name => some name
  | .array | .arrayOf _ => some "Array"
  | _ => Option.none

/-- Whether the type is a union. -/
def isUnion : TypeExpr → Bool
  | .union _ => true
  | _ => false

/-- Whether the type is an array, whatever its elements. -/
def isArray : TypeExpr → Bool
  | .array | .arrayOf _ => true
  | _ => false

/-- The arms of a union; any other type is its own single arm. -/
def arms : TypeExpr → List TypeExpr
  | .union arms => arms
  | t => [t]

/-- The union of some types: nested unions are flattened, repeated arms dropped, and a single arm
stands for itself. -/
def unionOf (types : List TypeExpr) : TypeExpr :=
  match distinct (types.flatMap arms) with
  | [t] => t
  | ts => .union ts

end TypeExpr

end SignatureAudit
