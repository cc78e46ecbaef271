import SignatureAudit.Proofs.Hierarchy.Subtype

/-!
# Subtypes in place of supertypes

A value fits a declared type directly exactly if it is a subtype of one of its constituents that
constrain something (`fit?_eq_direct_iff_exists`). So a direct fit is handed down to the subtypes of
a named type by transitivity, and a fit as an element by the elements of the array that admits it
(`isSome_fit?_of_isNamedSubtype`).
-/

namespace SignatureAudit.Hierarchy

open TypeExpr (isUnion_of_mem_leaves)

variable {h : Hierarchy} {d v leaf : TypeExpr}

/-! ## Direct fits -/

/-- What accepts a category of objects or an array constrains nothing or is one of these itself. -/
theorem isNamedOrArray_of_accepts (plain : leaf.isUnion = false) (constrained : leaf ≠ .any)
    (hv : v.isNamedOrArray = true) (accepted : h.accepts leaf v = true) :
    leaf.isNamedOrArray = true := by
  cases leaf with
  | named name => rfl
  | array => rfl
  | arrayOf elem => rfl
  | union arms => cases plain
  | any => exact absurd rfl constrained
  | none =>
    cases v with
    | none => cases hv
    | _ => cases accepted

/-- A direct fit is one below a constituent that is a category of objects or an array. -/
theorem fit?_eq_direct_iff_exists (hv : v.isNamedOrArray = true) :
    h.fit? d v = some .direct ↔
      ∃ leaf ∈ d.leaves, leaf.isNamedOrArray = true ∧ h.isSubtype v leaf = true := by
  rw [fit?_eq_direct_iff]
  refine exists_congr fun leaf => and_congr_right fun hm => ?_
  have plain := isUnion_of_mem_leaves d hm
  rw [fit?_leaf_eq_direct_iff plain hv, isSubtype_eq_accepts (isUnion_of_isNamedOrArray hv)]
  constructor
  · rintro ⟨constrained, accepted⟩
    exact ⟨isNamedOrArray_of_accepts plain constrained hv accepted, accepted⟩
  · rintro ⟨shape, accepted⟩
    refine ⟨fun free => ?_, accepted⟩
    rw [free] at shape
    cases shape

/-- **A direct fit is subtyping without the unconstrained arms.** A value fits directly exactly if
it is a subtype of a constituent that is a category of objects or an array. Where such an arm stands
among the others does not matter, so it wins over an arm in front of it that takes the value as an
element. -/
theorem direct_fit_iff_below_constituent (h : Hierarchy) (d v : TypeExpr)
    (hv : v.isNamedOrArray = true) :
    (h.fit? d v = some .direct ↔
        ∃ leaf ∈ d.leaves, leaf.isNamedOrArray = true ∧ h.isSubtype v leaf = true) ∧
      ∀ (front back : List TypeExpr) (arm : TypeExpr), h.fit? arm v = some .direct →
        h.fit? (.union (front ++ arm :: back)) v = some .direct := by
  refine ⟨fit?_eq_direct_iff_exists hv, fun front back arm direct => ?_⟩
  rw [fit?, bestFit?_eq_direct_iff]
  exact ⟨arm, List.mem_append_right front List.mem_cons_self, direct⟩

/-- An executable is passed as itself, though an array of targets is asked for first. -/
theorem executable_fits_directly :
    (TypeExpr.named "Executable").isNamedOrArray = true ∧
      targets.fit? (.arrayOf (.named "Target")) (.named "Executable") = some .element ∧
      targets.fit? (.union [.arrayOf (.named "Target"), .named "Executable"]) (.named "Executable")
        = some .direct ∧
      ∃ leaf ∈ (TypeExpr.union [.arrayOf (.named "Target"), .named "Executable"]).leaves,
        leaf.isNamedOrArray = true ∧ targets.isSubtype (.named "Executable") leaf = true := by
  have own : targets.fit? (.named "Executable") (.named "Executable") = some .direct := by decide
  obtain ⟨iff, wins⟩ := direct_fit_iff_below_constituent targets
    (.union [.arrayOf (.named "Target"), .named "Executable"]) (.named "Executable") rfl
  have direct := wins [.arrayOf (.named "Target")] [] (.named "Executable") own
  exact ⟨rfl, by decide, direct, iff.1 direct⟩

/-! ## Named types -/

section

variable {rows : List TypeRow} {sub sup : String}

theorem isSubtype_named (h : Hierarchy) (sub sup : String) :
    h.isSubtype (.named sub) (.named sup) = h.isNamedSubtype sub sup :=
  isSubtype_eq_accepts rfl _

/-- What a type fits directly, its subtypes fit directly. -/
theorem fit?_direct_of_isNamedSubtype (built : ofRows rows = .ok h)
    (below : h.isNamedSubtype sub sup = true) (fits : h.fit? d (.named sup) = some .direct) :
    h.fit? d (.named sub) = some .direct := by
  rw [fit?_eq_direct_iff_exists rfl] at fits ⊢
  obtain ⟨leaf, hm, shape, above⟩ := fits
  rw [← isSubtype_named] at below
  exact ⟨leaf, hm, shape, isSubtype_trans built (.named sup) below above⟩

/-- What a type fits in some way, its subtypes fit in some way. -/
theorem isSome_fit?_of_isNamedSubtype (built : ofRows rows = .ok h)
    (below : h.isNamedSubtype sub sup = true) (fits : (h.fit? d (.named sup)).isSome) :
    (h.fit? d (.named sub)).isSome := by
  induction d using TypeExpr.armInduction with
  | named name =>
    -- a named type is fitted directly or not at all
    have direct : h.fit? (.named name) (.named sup) = some .direct := by
      rw [fit?] at fits ⊢
      split at fits
      next accepted => rw [if_pos accepted]
      · cases fits
    rw [fit?_direct_of_isNamedSubtype built below direct, Option.isSome_some]
  | array => cases fits
  | arrayOf elem ih =>
    -- an object is no array, so the elements decide
    have elements (name : String) :
        (h.fit? (.arrayOf elem) (.named name)).isSome = (h.fit? elem (.named name)).isSome := by
      have object : (TypeExpr.named name).isArray = false := rfl
      rw [fit?, object, Bool.false_and, if_neg Bool.false_ne_true, Option.isSome_map]
    rw [elements] at fits ⊢
    exact ih fits
  | union arms ih =>
    rw [isSome_fit?_iff] at fits ⊢
    obtain ⟨arm, harm, fits⟩ := fits
    exact ⟨arm, harm, ih arm harm fits⟩
  | any => cases fits
  | none => cases fits

/-- Subtypes fit where their supertypes do, and as well. -/
theorem exists_fit?_of_isNamedSubtype (built : ofRows rows = .ok h)
    (below : h.isNamedSubtype sub sup = true) {fit : Fit}
    (fits : h.fit? d (.named sup) = some fit) :
    ∃ fit', h.fit? d (.named sub) = some fit' ∧ (fit = .direct → fit' = .direct) := by
  have some_fit := isSome_fit?_of_isNamedSubtype built below (Option.isSome_of_eq_some fits)
  obtain ⟨fit', fits'⟩ := Option.isSome_iff_exists.1 some_fit
  refine ⟨fit', fits', fun direct => ?_⟩
  rw [direct] at fits
  rw [fit?_direct_of_isNamedSubtype built below fits] at fits'
  exact (Option.some.inj fits').symm

end

end SignatureAudit.Hierarchy
