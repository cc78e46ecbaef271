import SignatureAudit.Proofs.TypeExpr.Grammar
import SignatureAudit.Proofs.TypeExpr.Leaves
import Mathlib.Data.List.Basic

/-!
# Flattening unions

`flatten` flattens every union in a type, from the inside out. A union splices the arms of flattened
unions only, one level of them, and drops what has become equal on the way. What it comes to is the
union of all leaves, each flattened (`flatten_eq_oneOf`). So a flattened type has the flattened
leaves of the type for its leaves, each once (`leaves_flatten`), and flattening it again changes
nothing (`flatten_flatten`).
-/

namespace SignatureAudit.TypeExpr

mutual

/-- A type with each union in it flattened, the inner ones first. -/
def flatten : TypeExpr → TypeExpr
  | .union arms => unionOf (flattenArms arms)
  | .arrayOf elem => .arrayOf elem.flatten
  | .named name => .named name
  | .array => .array
  | .any => .any
  | .none => .none

/-- The arms of a union, each flattened. -/
def flattenArms : List TypeExpr → List TypeExpr
  | [] => []
  | arm :: rest => arm.flatten :: flattenArms rest

end

theorem flattenArms_eq (arms : List TypeExpr) : flattenArms arms = arms.map flatten := by
  induction arms with
  | nil => rfl
  | cons arm rest ih => rw [flattenArms, ih, List.map_cons]

variable {t : TypeExpr} {alternatives : List TypeExpr}

theorem isUnion_flatten (plain : t.isUnion = false) : t.flatten.isUnion = false := by
  cases t with
  | union arms => cases plain
  | _ => rfl

theorem isUnion_of_mem_map_flatten (t : TypeExpr) :
    ∀ arm ∈ t.leaves.map flatten, arm.isUnion = false := by
  intro arm harm
  obtain ⟨leaf, hm, rfl⟩ := List.mem_map.1 harm
  exact isUnion_flatten (isUnion_of_mem_leaves t hm)

/-! ## The union of the leaves -/

/-- Repetitions among alternatives do not count. -/
theorem oneOf_distinct (alternatives : List TypeExpr) :
    oneOf (distinct alternatives) = oneOf alternatives := by
  rw [oneOf, oneOf, distinct_of_nodup (nodup_distinct alternatives)]

/-- A flattened type is the union of its flattened leaves. -/
theorem flatten_eq_oneOf (t : TypeExpr) : t.flatten = oneOf (t.leaves.map flatten) := by
  induction t using armInduction with
  | union arms ih =>
    -- one level of an arm's union is all of its leaves, because the arm is flattened already
    have arms_of_arm : ∀ arm ∈ arms, arm.flatten.arms = distinct (arm.leaves.map flatten) := by
      intro arm harm
      rw [ih arm harm, arms_oneOf (isUnion_of_mem_map_flatten arm)]
    rw [flatten, unionOf_eq, flattenArms_eq, List.flatMap_map, List.flatMap_congr arms_of_arm,
      ← oneOf_distinct, distinct_flatMap_distinct, oneOf_distinct, leaves, leavesOfArms_eq,
      List.map_flatMap]
  | _ => rfl

/-- The leaves of a union of alternatives are the alternatives. -/
theorem leaves_oneOf (plain : ∀ t ∈ alternatives, t.isUnion = false) :
    (oneOf alternatives).leaves = distinct alternatives := by
  have own : ∀ t ∈ distinct alternatives, t.leaves = [t] := fun t ht =>
    leaves_of_isUnion_eq_false (plain t (mem_distinct.1 ht))
  rw [oneOf]
  split
  · next t single =>
    rw [single] at own
    exact (own t (List.mem_singleton_self t)).trans single.symm
  · rw [leaves, leavesOfArms_eq, List.flatMap_congr own]
    exact List.flatMap_singleton' _

theorem leaves_flatten (t : TypeExpr) : t.flatten.leaves = distinct (t.leaves.map flatten) := by
  rw [flatten_eq_oneOf, leaves_oneOf (isUnion_of_mem_map_flatten t)]

theorem mem_leaves_flatten {leaf : TypeExpr} :
    leaf ∈ t.flatten.leaves ↔ ∃ l ∈ t.leaves, l.flatten = leaf := by
  rw [leaves_flatten, mem_distinct, List.mem_map]

/-- A flattened type has nothing to flatten. -/
theorem flatten_flatten (t : TypeExpr) : t.flatten.flatten = t.flatten := by
  induction t using leafInduction with
  | arrayOf elem ih => rw [flatten, flatten, ih]
  | union arms ih =>
    have kept : ∀ leaf ∈ (TypeExpr.union arms).flatten.leaves, leaf.flatten = leaf := by
      intro leaf hm
      obtain ⟨l, hl, rfl⟩ := mem_leaves_flatten.1 hm
      exact ih l hl
    rw [flatten_eq_oneOf (TypeExpr.union arms).flatten, List.map_congr_left kept, List.map_id',
      leaves_flatten, oneOf_distinct, ← flatten_eq_oneOf]
  | _ => rfl

end SignatureAudit.TypeExpr
