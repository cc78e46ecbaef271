import SignatureAudit.Hierarchy.Fit
import SignatureAudit.Proofs.TypeExpr.Leaves

/-!
# Fits and subtypes

A declared type takes what one of its leaves takes, for subtyping (`accepts_eq_any_leaves`) as for
fits (`fit?_eq_bestFit?_leaves`). Leaf by leaf the two agree on a direct fit, but for
the unconstrained leaf, which accepts all and fits nothing (`accepts_iff`).

A value that fits as an element is wrapped in an array literal *once*, at whatever depth of arrays
it fits. So the literal is of the declared type only if one layer of arrays is enough
(`wrapped_isSubtype_iff`).
-/

namespace SignatureAudit

/-- Whether a type is a category of objects or an array. -/
def TypeExpr.isNamedOrArray : TypeExpr → Bool
  | .named _ | .array | .arrayOf _ => true
  | .union _ | .any | .none => false

namespace Hierarchy

open TypeExpr (leaves leavesOfArms isUnion_of_mem_leaves leaves_of_isUnion_eq_false)

variable {h : Hierarchy} {d v leaf : TypeExpr}

/-! ## Leaves -/

theorem isUnion_of_isNamedOrArray (hv : v.isNamedOrArray = true) : v.isUnion = false := by
  cases v with
  | union arms => cases hv
  | named name => rfl
  | array => rfl
  | arrayOf elem => rfl
  | any => rfl
  | none => rfl

mutual

/-- A type accepts what one of its leaves accepts. -/
theorem accepts_eq_any_leaves (h : Hierarchy) (leaf : TypeExpr) :
    (sup : TypeExpr) → h.accepts sup leaf = sup.leaves.any (h.accepts · leaf)
  | .union arms => by
    rw [accepts, leaves]
    exact armAccepts_eq_any_leaves h leaf arms
  | .named _ => by simp [leaves]
  | .array => by simp [leaves]
  | .arrayOf _ => by simp [leaves]
  | .any => by simp [leaves]
  | .none => by simp [leaves]

theorem armAccepts_eq_any_leaves (h : Hierarchy) (leaf : TypeExpr) :
    (arms : List TypeExpr) → h.armAccepts arms leaf = (leavesOfArms arms).any (h.accepts · leaf)
  | [] => rfl
  | arm :: rest => by
    rw [armAccepts, leavesOfArms, List.any_append, accepts_eq_any_leaves h leaf arm,
      armAccepts_eq_any_leaves h leaf rest]

end

/-- What is no union is a subtype of what accepts it. -/
theorem isSubtype_eq_accepts (hv : v.isUnion = false) (sup : TypeExpr) :
    h.isSubtype v sup = h.accepts sup v := by
  rw [isSubtype, leaves_of_isUnion_eq_false hv, List.all_cons, List.all_nil, Bool.and_true]

/-! ## Fits -/

theorem better_none (a : Option Fit) : Fit.better a none = a := by
  rcases a with _ | ⟨_ | _⟩ <;> rfl

theorem better_assoc (a b c : Option Fit) :
    Fit.better (Fit.better a b) c = Fit.better a (Fit.better b c) := by
  rcases a with _ | ⟨_ | _⟩ <;> rcases b with _ | ⟨_ | _⟩ <;> rcases c with _ | ⟨_ | _⟩ <;> rfl

theorem better_eq_direct_iff (a b : Option Fit) :
    Fit.better a b = some .direct ↔ a = some .direct ∨ b = some .direct := by
  rcases a with _ | ⟨_ | _⟩ <;> rcases b with _ | ⟨_ | _⟩ <;> simp [Fit.better]

theorem better_eq_none_iff (a b : Option Fit) :
    Fit.better a b = none ↔ a = none ∧ b = none := by
  rcases a with _ | ⟨_ | _⟩ <;> rcases b with _ | ⟨_ | _⟩ <;> simp [Fit.better]

theorem bestFit?_singleton (h : Hierarchy) (t v : TypeExpr) : h.bestFit? [t] v = h.fit? t v := by
  rw [bestFit?, bestFit?, better_none]

theorem bestFit?_append (h : Hierarchy) (front back : List TypeExpr) (v : TypeExpr) :
    h.bestFit? (front ++ back) v = Fit.better (h.bestFit? front v) (h.bestFit? back v) := by
  induction front with
  | nil =>
    rw [List.nil_append, bestFit?]
    rcases h.bestFit? back v with _ | ⟨_ | _⟩ <;> rfl
  | cons t rest ih => rw [List.cons_append, bestFit?, bestFit?, ih, better_assoc]

theorem bestFit?_eq_direct_iff (types : List TypeExpr) :
    h.bestFit? types v = some .direct ↔ ∃ t ∈ types, h.fit? t v = some .direct := by
  induction types with
  | nil => simp [bestFit?]
  | cons t rest ih =>
    simp only [bestFit?, better_eq_direct_iff, ih, List.mem_cons, exists_eq_or_imp]

theorem bestFit?_eq_none_iff (types : List TypeExpr) :
    h.bestFit? types v = none ↔ ∀ t ∈ types, h.fit? t v = none := by
  induction types with
  | nil => simp [bestFit?]
  | cons t rest ih => rw [bestFit?, better_eq_none_iff, ih, List.forall_mem_cons]

mutual

/-- A value fits a type as well as it fits the leaves. -/
theorem fit?_eq_bestFit?_leaves (h : Hierarchy) (v : TypeExpr) :
    (d : TypeExpr) → h.fit? d v = h.bestFit? d.leaves v
  | .union arms => by
    rw [fit?, leaves]
    exact bestFit?_eq_bestFit?_leaves h v arms
  | .named _ => (bestFit?_singleton ..).symm
  | .array => (bestFit?_singleton ..).symm
  | .arrayOf _ => (bestFit?_singleton ..).symm
  | .any => (bestFit?_singleton ..).symm
  | .none => (bestFit?_singleton ..).symm

theorem bestFit?_eq_bestFit?_leaves (h : Hierarchy) (v : TypeExpr) :
    (arms : List TypeExpr) → h.bestFit? arms v = h.bestFit? (leavesOfArms arms) v
  | [] => rfl
  | arm :: rest => by
    rw [bestFit?, leavesOfArms, bestFit?_append, fit?_eq_bestFit?_leaves h v arm,
      bestFit?_eq_bestFit?_leaves h v rest]

end

theorem fit?_eq_direct_iff (d : TypeExpr) :
    h.fit? d v = some .direct ↔ ∃ leaf ∈ d.leaves, h.fit? leaf v = some .direct := by
  rw [fit?_eq_bestFit?_leaves, bestFit?_eq_direct_iff]

theorem fit?_eq_none_iff (d : TypeExpr) :
    h.fit? d v = none ↔ ∀ leaf ∈ d.leaves, h.fit? leaf v = none := by
  rw [fit?_eq_bestFit?_leaves, bestFit?_eq_none_iff]

/-- A value fits a type as well as it fits the arms. -/
theorem fit?_eq_bestFit?_arms (h : Hierarchy) (d v : TypeExpr) :
    h.fit? d v = h.bestFit? d.arms v := by
  cases d with
  | union arms => rw [fit?, TypeExpr.arms]
  | named name => exact (bestFit?_singleton ..).symm
  | array => exact (bestFit?_singleton ..).symm
  | arrayOf elem => exact (bestFit?_singleton ..).symm
  | any => exact (bestFit?_singleton ..).symm
  | none => exact (bestFit?_singleton ..).symm

theorem isSome_fit?_iff (d : TypeExpr) :
    (h.fit? d v).isSome ↔ ∃ arm ∈ d.arms, (h.fit? arm v).isSome := by
  simp only [fit?_eq_bestFit?_arms h d v, Option.isSome_iff_ne_none, ne_eq, bestFit?_eq_none_iff,
    Classical.not_forall, exists_prop]

/-- On a leaf, a direct fit is subtyping, unless the leaf is unconstrained. -/
theorem fit?_leaf_eq_direct_iff (hl : leaf.isUnion = false) (hv : v.isNamedOrArray = true) :
    h.fit? leaf v = some .direct ↔ leaf ≠ .any ∧ h.accepts leaf v = true := by
  have single := isUnion_of_isNamedOrArray hv
  cases leaf with
  | union arms => cases hl
  | any => simp [fit?]
  | none =>
    cases v with
    | named name => simp [fit?, accepts]
    | array => simp [fit?, accepts]
    | arrayOf elem => simp [fit?, accepts]
    | union arms => cases hv
    | any => cases hv
    | none => cases hv
  | named name => simp [fit?, isSubtype_eq_accepts single]
  | array => simp [fit?, accepts]
  | arrayOf elem =>
    rw [fit?, isSubtype_eq_accepts single]
    cases harr : v.isArray with
    | true => cases hacc : h.accepts (.arrayOf elem) v <;> simp
    | false =>
      -- a category of objects is no array, so it is no value of an array type
      have refused : h.accepts (.arrayOf elem) v = false := by
        cases v with
        | named name => rfl
        | array => cases harr
        | arrayOf elem => cases harr
        | union arms => cases hv
        | any => cases hv
        | none => cases hv
      simp [refused]

/-- A type accepts a value that fits directly, and any value if one of its leaves is
unconstrained. -/
theorem accepts_iff (hv : v.isNamedOrArray = true) (d : TypeExpr) :
    h.accepts d v = true ↔ h.fit? d v = some .direct ∨ .any ∈ d.leaves := by
  rw [accepts_eq_any_leaves, List.any_eq_true, fit?_eq_direct_iff]
  constructor
  · rintro ⟨leaf, hm, hacc⟩
    have leaf_iff := fit?_leaf_eq_direct_iff (h := h) (isUnion_of_mem_leaves d hm) hv
    by_cases free : leaf = .any
    · exact .inr (free ▸ hm)
    · exact .inl ⟨leaf, hm, leaf_iff.2 ⟨free, hacc⟩⟩
  · rintro (⟨leaf, hm, hfit⟩ | free)
    · have leaf_iff := fit?_leaf_eq_direct_iff (h := h) (isUnion_of_mem_leaves d hm) hv
      exact ⟨leaf, hm, (leaf_iff.1 hfit).2⟩
    · exact ⟨.any, free, rfl⟩

/-! ## Wrapped values -/

/-- Only the elements of an array admit a value as an element. -/
theorem exists_arrayOf_of_element (fits : h.fit? d v = some .element) :
    ∃ elem, .arrayOf elem ∈ d.leaves ∧ (h.fit? elem v).isSome := by
  have admitted : ¬∀ leaf ∈ d.leaves, h.fit? leaf v = none := by
    intro refused
    rw [(fit?_eq_none_iff d).2 refused] at fits
    cases fits
  obtain ⟨leaf, hm, hfit⟩ : ∃ leaf ∈ d.leaves, h.fit? leaf v ≠ none := by simpa using admitted
  -- a leaf with a direct fit would make the whole fit direct
  have indirect : h.fit? leaf v ≠ some .direct := by
    intro direct
    rw [(fit?_eq_direct_iff d).2 ⟨leaf, hm, direct⟩] at fits
    cases fits
  cases leaf with
  | union arms => cases isUnion_of_mem_leaves d hm
  | any => exact absurd rfl hfit
  | none => exact absurd rfl hfit
  | named name => cases hsub : h.isSubtype v (.named name) <;> simp_all [fit?]
  | array => cases harr : v.isArray <;> simp_all [fit?]
  | arrayOf elem =>
    refine ⟨elem, hm, ?_⟩
    by_cases whole : (v.isArray && h.isSubtype v (.arrayOf elem)) = true
    · exact absurd (by rw [fit?, if_pos whole]) indirect
    · rw [fit?, if_neg whole, ne_eq, Option.map_eq_none_iff] at hfit
      exact Option.isSome_iff_ne_none.2 hfit

/-- An array literal of one value is of a type if an array leaf of it accepts the value. -/
theorem isSubtype_arrayOf_iff (hv : v.isUnion = false) :
    h.isSubtype (.arrayOf v) d = true ↔ .any ∈ d.leaves ∨ .array ∈ d.leaves ∨
      ∃ elem, .arrayOf elem ∈ d.leaves ∧ h.accepts elem v = true := by
  have inner (elem : TypeExpr) : h.accepts (.arrayOf elem) (.arrayOf v) = h.accepts elem v :=
    isSubtype_eq_accepts hv elem
  rw [isSubtype_eq_accepts rfl, accepts_eq_any_leaves, List.any_eq_true]
  constructor
  · rintro ⟨leaf, hm, hacc⟩
    cases leaf with
    | union arms => cases isUnion_of_mem_leaves d hm
    | any => exact .inl hm
    | array => exact .inr (.inl hm)
    | arrayOf elem => exact .inr (.inr ⟨elem, hm, (inner elem).symm.trans hacc⟩)
    | named name => cases hacc
    | none => cases hacc
  · rintro (hm | hm | ⟨elem, hm, hacc⟩)
    · exact ⟨.any, hm, rfl⟩
    · exact ⟨.array, hm, rfl⟩
    · exact ⟨.arrayOf elem, hm, (inner elem).trans hacc⟩

/-- **When a wrapped value is well typed.** A value that fits as an element fits the elements of an
array of the declared type. The array literal of the value is of the declared type exactly if the
value fits the elements of one directly, or if the declared type takes arrays of anything. -/
theorem wrapped_isSubtype_iff (fits : h.fit? d v = some .element) (hv : v.isNamedOrArray = true) :
    (∃ elem, .arrayOf elem ∈ d.leaves ∧ (h.fit? elem v).isSome) ∧
      (h.isSubtype (.arrayOf v) d = true ↔ .any ∈ d.leaves ∨ .array ∈ d.leaves ∨
        ∃ elem, .arrayOf elem ∈ d.leaves ∧
          (h.fit? elem v = some .direct ∨ .any ∈ elem.leaves)) := by
  refine ⟨exists_arrayOf_of_element fits, ?_⟩
  simp only [isSubtype_arrayOf_iff (isUnion_of_isNamedOrArray hv), accepts_iff hv]

/-- Executables are targets. -/
def targets : Hierarchy :=
  ⟨[("Executable", ["Executable", "Target"]), ("Target", ["Target"]), ("String", ["String"])]⟩

theorem ofRows_targets :
    ofRows [("Executable", some "Target"), ("Target", none), ("String", none)] = .ok targets := by
  rw [ofRows_eq (by decide)]
  rfl

theorem wrapped_executable :
    targets.fit? (.arrayOf (.union [.named "String", .named "Target"])) (.named "Executable")
        = some .element ∧
      (TypeExpr.named "Executable").isNamedOrArray = true ∧
      targets.isSubtype (.arrayOf (.named "Executable"))
        (.arrayOf (.union [.named "String", .named "Target"])) = true := by
  have fits : targets.fit? (.arrayOf (.union [.named "String", .named "Target"]))
      (.named "Executable") = some .element := by decide
  refine ⟨fits, rfl, ?_⟩
  refine (wrapped_isSubtype_iff fits rfl).2.2 (.inr (.inr ⟨_, List.mem_singleton_self _, .inl ?_⟩))
  decide

/-- Two layers of arrays are one too many. -/
theorem wrapped_string_not_nested :
    ofRows [("Executable", some "Target"), ("Target", none), ("String", none)] = .ok targets ∧
      targets.fit? (.arrayOf (.arrayOf (.named "String"))) (.named "String") = some .element ∧
      targets.isSubtype (.arrayOf (.named "String")) (.arrayOf (.arrayOf (.named "String")))
        = false :=
  ⟨ofRows_targets, by decide, by decide⟩

end Hierarchy

end SignatureAudit
