import SignatureAudit.TypeExpr.Basic

/-!
# Leaves

How unions are nested does not matter where only the leaves of a type count. `armInduction` proves a
statement of a union from its arms; `leafInduction` proves it from the leaves, whichever arm they
stand in. Either way an array is reached through its elements.
-/

namespace SignatureAudit.TypeExpr

variable {t leaf : TypeExpr}

theorem armInduction {motive : TypeExpr → Prop} (named : ∀ name, motive (.named name))
    (array : motive .array) (arrayOf : ∀ elem, motive elem → motive (.arrayOf elem))
    (union : ∀ arms, (∀ arm ∈ arms, motive arm) → motive (.union arms))
    (any : motive .any) (none : motive .none) (t : TypeExpr) : motive t := by
  refine @TypeExpr.rec motive (fun arms => ∀ arm ∈ arms, motive arm) named array arrayOf union any
    none ?nil ?cons t
  case nil => exact List.forall_mem_nil _
  case cons => exact fun arm rest first others => List.forall_mem_cons.2 ⟨first, others⟩

theorem leafInduction {motive : TypeExpr → Prop} (named : ∀ name, motive (.named name))
    (array : motive .array) (arrayOf : ∀ elem, motive elem → motive (.arrayOf elem))
    (union : ∀ arms, (∀ leaf ∈ leavesOfArms arms, motive leaf) → motive (.union arms))
    (any : motive .any) (none : motive .none) (t : TypeExpr) : motive t := by
  have single {t : TypeExpr} (holds : motive t) : motive t ∧ ∀ leaf ∈ [t], motive leaf :=
    ⟨holds, List.forall_mem_singleton.2 holds⟩
  -- an arm hands on its leaves, an array needs its elements whole
  suffices both : motive t ∧ ∀ leaf ∈ t.leaves, motive leaf from both.1
  induction t using armInduction with
  | named name => exact single (named name)
  | array => exact single array
  | arrayOf elem ih => exact single (arrayOf elem ih.1)
  | union arms ih =>
    have all : ∀ leaf ∈ leavesOfArms arms, motive leaf := by
      intro leaf hm
      rw [leavesOfArms_eq, List.mem_flatMap] at hm
      obtain ⟨arm, harm, hm⟩ := hm
      exact (ih arm harm).2 leaf hm
    exact ⟨union arms all, all⟩
  | any => exact single any
  | none => exact single none

theorem isUnion_of_mem_leaves (t : TypeExpr) (hm : leaf ∈ t.leaves) : leaf.isUnion = false := by
  induction t using armInduction with
  | union arms ih =>
    rw [leaves, leavesOfArms_eq, List.mem_flatMap] at hm
    obtain ⟨arm, harm, hm⟩ := hm
    exact ih arm harm hm
  | _ =>
    rw [List.eq_of_mem_singleton hm]
    rfl

theorem leaves_of_isUnion_eq_false (plain : t.isUnion = false) : t.leaves = [t] := by
  cases t with
  | union arms => cases plain
  | _ => rfl

end SignatureAudit.TypeExpr
