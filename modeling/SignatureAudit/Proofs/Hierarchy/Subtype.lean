import SignatureAudit.Proofs.Hierarchy.Fit
import SignatureAudit.Proofs.Hierarchy.Rows

/-!
# Subtyping as an order

Subtyping compares leaves: each leaf of the one type has to be a subtype of some leaf of the other
(`isSubtype_iff`). So it is reflexive, a union is above its arms, and transitivity comes down to
three leaves, where the parents of names and the elements of arrays decide (`isSubtype_trans`).

The untyped array breaks transitivity where it stands between two other types, because it is both
above and below every array. It is harmless at either end.
-/

namespace SignatureAudit

/-- Every array in a type, at any depth, has an element type. -/
inductive TypeExpr.ArraysTyped : TypeExpr → Prop
  | named (name : String) : ArraysTyped (.named name)
  | arrayOf {elem : TypeExpr} (typed : ArraysTyped elem) : ArraysTyped (.arrayOf elem)
  | union {arms : List TypeExpr} (typed : ∀ arm ∈ arms, ArraysTyped arm) :
      ArraysTyped (.union arms)
  | any : ArraysTyped .any
  | none : ArraysTyped .none

theorem TypeExpr.ArraysTyped.of_mem_leaves {t leaf : TypeExpr} (typed : t.ArraysTyped)
    (hm : leaf ∈ t.leaves) : leaf.ArraysTyped := by
  induction typed with
  | union typed ih =>
    rw [leaves, leavesOfArms_eq] at hm
    obtain ⟨arm, harm, hm⟩ := List.mem_flatMap.1 hm
    exact ih arm harm hm
  | named name => exact List.eq_of_mem_singleton hm ▸ .named name
  | arrayOf typed => exact List.eq_of_mem_singleton hm ▸ .arrayOf typed
  | any => exact List.eq_of_mem_singleton hm ▸ .any
  | none => exact List.eq_of_mem_singleton hm ▸ .none

namespace Hierarchy

open TypeExpr (isUnion_of_mem_leaves)

variable {h : Hierarchy} {a b c leaf : TypeExpr}

/-! ## Leaf by leaf -/

/-- What is no union is a subtype of what has a leaf above it. -/
theorem isSubtype_iff_exists (plain : leaf.isUnion = false) :
    h.isSubtype leaf b = true ↔ ∃ y ∈ b.leaves, h.isSubtype leaf y = true := by
  simp only [isSubtype_eq_accepts plain]
  rw [accepts_eq_any_leaves, List.any_eq_true]

theorem isSubtype_iff :
    h.isSubtype a b = true ↔ ∀ x ∈ a.leaves, ∃ y ∈ b.leaves, h.isSubtype x y = true := by
  rw [isSubtype, List.all_eq_true]
  refine forall₂_congr fun x hx => ?_
  have plain := isUnion_of_mem_leaves a hx
  rw [← isSubtype_iff_exists plain, isSubtype_eq_accepts plain]

theorem isSubtype_iff_forall :
    h.isSubtype a b = true ↔ ∀ x ∈ a.leaves, h.isSubtype x b = true := by
  rw [isSubtype_iff]
  exact forall₂_congr fun x hx => (isSubtype_iff_exists (isUnion_of_mem_leaves a hx)).symm

/-- A union is above what is below one of its arms. -/
theorem isSubtype_union_of_mem {arms : List TypeExpr} (harm : b ∈ arms)
    (below : h.isSubtype a b = true) : h.isSubtype a (.union arms) = true := by
  rw [isSubtype_iff] at below ⊢
  intro x hx
  obtain ⟨y, hy, between⟩ := below x hx
  refine ⟨y, ?_, between⟩
  rw [TypeExpr.leaves, TypeExpr.leavesOfArms_eq]
  exact List.mem_flatMap.2 ⟨b, harm, hy⟩

theorem isNamedSubtype_refl (h : Hierarchy) (name : String) : h.isNamedSubtype name name = true := by
  rw [isNamedSubtype, beq_self_eq_true, Bool.true_or]

theorem isSubtype_refl (h : Hierarchy) (t : TypeExpr) : h.isSubtype t t = true := by
  induction t using TypeExpr.leafInduction with
  | named name =>
    rw [isSubtype_eq_accepts rfl]
    exact h.isNamedSubtype_refl name
  | arrayOf elem ih => rwa [isSubtype_arrayOf]
  | union arms ih => exact isSubtype_iff.2 fun leaf hm => ⟨leaf, hm, ih leaf hm⟩
  | array => rfl
  | any => rfl
  | none => rfl

/-! ## Transitivity -/

/-- Between types, what is no union hands on what it hands on between leaves. -/
theorem isSubtype_trans_of_leaves (plain : b.isUnion = false)
    (leafwise : ∀ x z, x.isUnion = false → z.isUnion = false → h.accepts b x = true →
      h.accepts z b = true → h.accepts z x = true)
    (first : h.isSubtype a b = true) (second : h.isSubtype b c = true) :
    h.isSubtype a c = true := by
  rw [isSubtype_iff_forall] at first ⊢
  obtain ⟨z, hz, above⟩ := (isSubtype_iff_exists plain).1 second
  rw [isSubtype_eq_accepts plain] at above
  intro x hx
  have hxu := isUnion_of_mem_leaves a hx
  have below := first x hx
  rw [isSubtype_eq_accepts hxu] at below
  refine (isSubtype_iff_exists hxu).2 ⟨z, hz, ?_⟩
  rw [isSubtype_eq_accepts hxu]
  exact leafwise x z hxu (isUnion_of_mem_leaves c hz) below above

/-- What is above and below types in which every array has elements is handed on by them. -/
theorem isSubtype_trans {rows : List TypeRow} (built : ofRows rows = .ok h)
    (typed : b.ArraysTyped) (first : h.isSubtype a b = true) (second : h.isSubtype b c = true) :
    h.isSubtype a c = true := by
  induction b using TypeExpr.leafInduction generalizing a c with
  | union arms ih =>
    -- each leaf of the first type goes through a leaf of the union
    rw [isSubtype_iff_forall] at second ⊢
    intro x hx
    obtain ⟨y, hy, below⟩ := isSubtype_iff.1 first x hx
    exact ih y hy (typed.of_mem_leaves hy) below (second y hy)
  | named name =>
    refine isSubtype_trans_of_leaves rfl (fun x z hx hz below above => ?_) first second
    cases z with
    | named sup =>
      cases x with
      | named sub => exact isNamedSubtype_trans built below above
      | _ => cases below
    | any => rfl
    | union arms => cases hz
    | _ => cases above
  | array => cases typed
  | arrayOf elem ih =>
    cases typed with
    | arrayOf typed =>
      refine isSubtype_trans_of_leaves rfl (fun x z hx hz below above => ?_) first second
      -- below an array type stand arrays only, which every array type above it takes
      cases x with
      | arrayOf sub =>
        cases z with
        | arrayOf sup => exact ih typed below above
        | any => rfl
        | array => rfl
        | union arms => cases hz
        | _ => cases above
      | array =>
        cases z with
        | arrayOf sup => rfl
        | any => rfl
        | array => rfl
        | union arms => cases hz
        | _ => cases above
      | _ => cases below
  | any =>
    refine isSubtype_trans_of_leaves rfl (fun x z hx hz below above => ?_) first second
    cases z with
    | any => rfl
    | union arms => cases hz
    | _ => cases above
  | none =>
    refine isSubtype_trans_of_leaves rfl (fun x z hx hz below above => ?_) first second
    cases x with
    | none => exact above
    | _ => cases below

/-- **Subtyping is an order away from untyped arrays.** It is reflexive; it is transitive through
each type whose arrays all have an element type; a union is above what is below one of its arms; and
arrays are compared by their elements. -/
theorem subtyping_preorder {rows : List TypeRow} (built : ofRows rows = .ok h) :
    (∀ t, h.isSubtype t t = true) ∧
      (∀ a b c : TypeExpr, b.ArraysTyped → h.isSubtype a b = true → h.isSubtype b c = true →
        h.isSubtype a c = true) ∧
      (∀ (x a : TypeExpr) (arms : List TypeExpr), a ∈ arms → h.isSubtype x a = true →
        h.isSubtype x (.union arms) = true) ∧
      ∀ a b : TypeExpr, h.isSubtype (.arrayOf a) (.arrayOf b) = true ↔ h.isSubtype a b = true := by
  refine ⟨h.isSubtype_refl, fun a b c typed => isSubtype_trans built typed,
    fun x a arms harm => isSubtype_union_of_mem harm, fun a b => ?_⟩
  rw [isSubtype_arrayOf]

/-- Executables in an array are targets, which may be passed in an array beside strings. -/
theorem executables_below_optional_array :
    ofRows [("Executable", some "Target"), ("Target", none), ("String", none)] = .ok targets ∧
      (TypeExpr.arrayOf (.named "Target")).ArraysTyped ∧
      targets.isSubtype (.arrayOf (.named "Executable")) (.arrayOf (.named "Target")) = true ∧
      targets.isSubtype (.arrayOf (.named "Target"))
        (.union [.arrayOf (.union [.named "String", .named "Target"]), .none]) = true ∧
      targets.isSubtype (.arrayOf (.named "Executable"))
        (.union [.arrayOf (.union [.named "String", .named "Target"]), .none]) = true := by
  obtain ⟨refl, trans, arm, arrays⟩ := subtyping_preorder ofRows_targets
  have typed : (TypeExpr.arrayOf (.named "Target")).ArraysTyped := .arrayOf (.named "Target")
  have first := (arrays (.named "Executable") (.named "Target")).2 (by decide)
  have target : targets.isSubtype (.named "Target")
      (.union [.named "String", .named "Target"]) = true :=
    arm _ (.named "Target") _ (by simp) (refl _)
  have second := arm _ _ [_, .none] List.mem_cons_self ((arrays _ _).2 target)
  exact ⟨ofRows_targets, typed, first, second, trans _ _ _ typed first second⟩

/-- Through an untyped array, strings would be targets. -/
example : targets.isSubtype (.arrayOf (.named "String")) .array = true ∧
    targets.isSubtype .array (.arrayOf (.named "Target")) = true ∧
    targets.isSubtype (.arrayOf (.named "String")) (.arrayOf (.named "Target")) = false := by
  decide

end Hierarchy

end SignatureAudit
