import SignatureAudit.Proofs.Hierarchy.Subtype
import SignatureAudit.Proofs.TypeExpr.Flatten

/-!
# Flattening keeps what a type means

Subtyping and fits look at leaves, and flattening a type flattens its leaves. So it can be seen
neither above a type (`accepts_flatten`) nor below it (`isSubtype_flatten_left`), nor in a fit
(`fit?_flatten`): what is left to show is that arrays, the only leaves that are changed, are
compared by their elements.
-/

namespace SignatureAudit.Hierarchy

open TypeExpr (isUnion_of_mem_leaves mem_leaves_flatten)

variable {h : Hierarchy} {v leaf : TypeExpr}

theorem accepts_iff_exists {sup : TypeExpr} :
    h.accepts sup leaf = true ↔ ∃ y ∈ sup.leaves, h.accepts y leaf = true := by
  rw [accepts_eq_any_leaves, List.any_eq_true]

/-! ## Subtypes -/

/-- A flattened type accepts the same leaves. -/
theorem accepts_flatten (h : Hierarchy) (sup leaf : TypeExpr) :
    h.accepts sup.flatten leaf = h.accepts sup leaf := by
  induction sup using TypeExpr.leafInduction generalizing leaf with
  | arrayOf elem ih =>
    cases leaf with
    | arrayOf sub =>
      have each : h.accepts elem.flatten = h.accepts elem := funext ih
      rw [TypeExpr.flatten, accepts, accepts, each]
    | _ => rfl
  | union arms ih =>
    rw [Bool.eq_iff_iff, accepts_iff_exists, accepts_iff_exists]
    simp only [mem_leaves_flatten, exists_exists_and_eq_and]
    exact exists_congr fun y => and_congr_right fun hy => by rw [ih y hy]
  | _ => rfl

theorem isSubtype_flatten_right (h : Hierarchy) (sub sup : TypeExpr) :
    h.isSubtype sub sup.flatten = h.isSubtype sub sup := by
  have each : h.accepts sup.flatten = h.accepts sup := funext (h.accepts_flatten sup)
  rw [isSubtype, isSubtype, each]

/-- A flattened type is below the same types. -/
theorem isSubtype_flatten_left (h : Hierarchy) (sub sup : TypeExpr) :
    h.isSubtype sub.flatten sup = h.isSubtype sub sup := by
  induction sub using TypeExpr.leafInduction generalizing sup with
  | arrayOf elem ih =>
    rw [TypeExpr.flatten, Bool.eq_iff_iff, isSubtype_iff_exists rfl, isSubtype_iff_exists rfl]
    refine exists_congr fun y => and_congr_right fun hy => ?_
    -- only an array with elements asks for the elements below it
    cases y with
    | arrayOf upper => rw [isSubtype_arrayOf, isSubtype_arrayOf, ih]
    | union arms => cases isUnion_of_mem_leaves sup hy
    | _ => rfl
  | union arms ih =>
    rw [Bool.eq_iff_iff, isSubtype_iff_forall, isSubtype_iff_forall]
    simp only [mem_leaves_flatten, forall_exists_index, and_imp, forall_apply_eq_imp_iff₂]
    exact forall₂_congr fun x hx => by rw [ih x hx]
  | _ => rfl

/-! ## Fits -/

/-- Fits are told apart by whether they are direct and whether they are none. -/
theorem fit_ext {f g : Option Fit} (direct : f = some .direct ↔ g = some .direct)
    (none : f = none ↔ g = none) : f = g := by
  rcases f with _ | ⟨_ | _⟩ <;> rcases g with _ | ⟨_ | _⟩ <;> simp_all

/-- A value fits a flattened type as it fits the type. -/
theorem fit?_flatten (h : Hierarchy) (d v : TypeExpr) : h.fit? d.flatten v = h.fit? d v := by
  induction d using TypeExpr.leafInduction with
  | arrayOf elem ih =>
    have below := h.isSubtype_flatten_right v (.arrayOf elem)
    rw [TypeExpr.flatten] at below
    rw [TypeExpr.flatten, fit?, fit?, below, ih]
  | union arms ih =>
    refine fit_ext ?_ ?_
    · rw [fit?_eq_direct_iff, fit?_eq_direct_iff]
      simp only [mem_leaves_flatten, exists_exists_and_eq_and]
      exact exists_congr fun y => and_congr_right fun hy => by rw [ih y hy]
    · rw [fit?_eq_none_iff, fit?_eq_none_iff]
      simp only [mem_leaves_flatten, forall_exists_index, and_imp, forall_apply_eq_imp_iff₂]
      exact forall₂_congr fun y hy => by rw [ih y hy]
  | _ => rfl

/-- **Flattening unions preserves meaning.** Flattened types are subtypes of one another as the
types are, a value fits a flattened type as it fits the type, and a flattened type has nothing to
flatten. -/
theorem flatten_preserves_meaning (h : Hierarchy) (a b v : TypeExpr) :
    h.isSubtype a.flatten b.flatten = h.isSubtype a b ∧
      h.fit? a.flatten v = h.fit? a v ∧
      a.flatten.flatten = a.flatten := by
  refine ⟨?_, h.fit?_flatten a v, a.flatten_flatten⟩
  rw [isSubtype_flatten_left, isSubtype_flatten_right]

/-- Arms become equal on the way, and then one is left. -/
example :
    (TypeExpr.union [.arrayOf (.union [.named "A"]), .union [.arrayOf (.named "A")]]).flatten
      = .arrayOf (.named "A") := by
  decide

end SignatureAudit.Hierarchy
