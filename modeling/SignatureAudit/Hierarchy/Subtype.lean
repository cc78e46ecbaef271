import SignatureAudit.Hierarchy.Basic
import SignatureAudit.TypeExpr.Basic

/-!
# Subtyping

A type stands for its leaves, the constituents that are no unions. It is a subtype of another when
the other accepts each of its leaves: a union accepts what one of its arms accepts, arrays are
covariant, and an untyped array fits every array type in both directions. `isSubtype_union` and
`isSubtype_arrayOf` give the laws of the two compound types.
-/

namespace SignatureAudit.Hierarchy

open TypeExpr

mutual

/-- Whether a type takes every value of a type that is no union. -/
def accepts (h : Hierarchy) : (sup leaf : TypeExpr) → Bool
  | .any, _ => true
  | .union arms, leaf => armAccepts h arms leaf
  | .named sup, .named sub => h.isNamedSubtype sub sup
  | .array, leaf => leaf.isArray
  | .arrayOf _, .array => true
  | .arrayOf sup, .arrayOf sub => sub.leaves.all fun leaf => accepts h sup leaf
  | .none, .none => true
  | _, _ => false

/-- Whether one of the arms takes every value of a type that is no union. -/
def armAccepts (h : Hierarchy) : (arms : List TypeExpr) → (leaf : TypeExpr) → Bool
  | [], _ => false
  | arm :: rest, leaf => accepts h arm leaf || armAccepts h rest leaf

end

/-- Whether every value of the one type is a value of the other. -/
def isSubtype (h : Hierarchy) (sub sup : TypeExpr) : Bool := sub.leaves.all (h.accepts sup)

/-- A union is a subtype when each of its arms is. -/
theorem isSubtype_union (h : Hierarchy) (arms : List TypeExpr) (sup : TypeExpr) :
    h.isSubtype (.union arms) sup = arms.all (h.isSubtype · sup) := by
  simp [isSubtype, leaves, leavesOfArms_eq, List.all_flatMap]

/-- Arrays are covariant. -/
theorem isSubtype_arrayOf (h : Hierarchy) (sub sup : TypeExpr) :
    h.isSubtype (.arrayOf sub) (.arrayOf sup) = h.isSubtype sub sup := by
  simp [isSubtype, leaves, accepts]

end SignatureAudit.Hierarchy
