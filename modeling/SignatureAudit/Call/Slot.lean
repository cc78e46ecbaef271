import SignatureAudit.Call.Combination
import SignatureAudit.Hierarchy.Fit

/-!
# Where a value can be passed

A signature accepts a value of some type if one of its combinations has an argument that the value
fits. `Signature.slot?` finds the first such argument of the first such combination
(`Signature.slot?_eq`), but tries no more combinations than it has to.
-/

namespace SignatureAudit

/-- A parameter that takes a value, in a combination that has the parameter. -/
structure Slot where
  param : String
  combination : Combination
  fit : Fit
  deriving DecidableEq, Repr

namespace Combination

/-- The first argument that a value of the given type fits, by the name of its parameter. -/
def accepting? (c : Combination) (h : Hierarchy) (value : TypeExpr) : Option (String × Fit) :=
  c.args.findSome? fun arg => (h.fit? arg.type value).map (arg.param.name, ·)

end Combination

/-- Whether a value fits some choice for a parameter that is not left out. -/
def Parameter.canTake (h : Hierarchy) (value : TypeExpr) (keywordOnly : Bool) (p : Parameter) :
    Bool :=
  (!keywordOnly || p.isKeyword) && p.type.arms.any fun arm => (h.fit? arm.concrete value).isSome

/-- Where only keywords are left, no more parameters can take a value. -/
theorem Parameter.canTake_mono {h : Hierarchy} {value : TypeExpr} {p : Parameter} {b : Bool}
    (takes : p.canTake h value true = true) : p.canTake h value b = true := by
  simp only [canTake, Bool.not_true, Bool.false_or, Bool.and_eq_true] at takes ⊢
  exact ⟨by simp [takes.1], takes.2⟩

namespace Combination

/-- The slot that a combination has for a value. -/
def slot? (c : Combination) (h : Hierarchy) (value : TypeExpr) : Option Slot :=
  (c.accepting? h value).map fun (param, fit) => ⟨param, c, fit⟩

/-- The first slot among the combinations that begin in the given way. Where neither the arguments
so far nor the parameters that are left can take the value, no combination is tried. -/
def search (h : Hierarchy) (value : TypeExpr) (c : Combination) : List Parameter → Option Slot
  | [] => c.slot? h value
  | param :: rest =>
    if (c.accepting? h value).isNone && !(param :: rest).any (·.canTake h value c.keywordOnly) then
      none
    else param.type.arms.findSome? fun arm => search h value (c.push param arm) rest

/-- A choice for a parameter that cannot take the value adds no argument that fits it, and can only
turn the combination into one that takes keywords alone. -/
theorem push_accepts_none {h : Hierarchy} {value : TypeExpr} {c : Combination}
    {param : Parameter} {arm : TypeExpr} (none_yet : (c.accepting? h value).isNone)
    (refuses : param.canTake h value c.keywordOnly = false) (harm : arm ∈ param.type.arms) :
    ((c.push param arm).accepting? h value).isNone ∧
      ((c.push param arm).keywordOnly = c.keywordOnly ∨ (c.push param arm).keywordOnly = true) := by
  unfold push
  split
  · exact ⟨none_yet, .inr rfl⟩
  · split
    · exact ⟨none_yet, .inl rfl⟩
    · next kept =>
      refine ⟨?_, .inl rfl⟩
      have unfit : h.fit? arm.concrete value = none := by
        have allowed : (!c.keywordOnly || param.isKeyword) = true := by
          cases hk : c.keywordOnly <;> cases hp : param.isKeyword <;> simp_all
        rw [Parameter.canTake, allowed, Bool.true_and] at refuses
        simpa using List.any_eq_false.1 refuses arm harm
      simp only [accepting?, Option.isNone_iff_eq_none] at none_yet ⊢
      rw [List.findSome?_append, none_yet]
      simp [unfit]

/-- Without a fitting argument so far, a combination has one only by a parameter that can take the
value. -/
theorem slot?_eq_none {h : Hierarchy} {value : TypeExpr} {params : List Parameter}
    {c d : Combination} (none_yet : (c.accepting? h value).isNone)
    (none_left : params.any (·.canTake h value c.keywordOnly) = false)
    (extends_c : d ∈ params.foldl Signature.extend [c]) : d.slot? h value = none := by
  induction params generalizing c with
  | nil =>
    obtain rfl : d = c := by simpa using extends_c
    simpa [slot?] using none_yet
  | cons param rest ih =>
    rw [List.foldl_cons, Signature.foldl_extend_eq_flatMap, List.mem_flatMap] at extends_c
    obtain ⟨e, he, hd⟩ := extends_c
    obtain ⟨arm, harm, rfl⟩ : ∃ arm ∈ param.type.arms, c.push param arm = e := by
      simpa [Signature.extend] using he
    rw [List.any_cons, Bool.or_eq_false_iff] at none_left
    obtain ⟨stays, keywords⟩ := push_accepts_none none_yet none_left.1 harm
    refine ih stays ?_ hd
    refine List.any_eq_false.2 fun p hp takes => List.any_eq_false.1 none_left.2 p hp ?_
    rcases keywords with same | only
    · rwa [same] at takes
    · rw [only] at takes
      exact Parameter.canTake_mono takes

theorem findSome?_flatMap {α β γ : Type} (l : List α) (f : α → List β) (g : β → Option γ) :
    (l.flatMap f).findSome? g = l.findSome? fun a => (f a).findSome? g := by
  induction l with
  | nil => rfl
  | cons a rest ih =>
    rw [List.flatMap_cons, List.findSome?_append, ih, List.findSome?_cons]
    cases (f a).findSome? g <;> rfl

/-- The pruned search finds what trying all combinations finds. -/
theorem search_eq (h : Hierarchy) (value : TypeExpr) (c : Combination) (params : List Parameter) :
    search h value c params
      = (params.foldl Signature.extend [c]).findSome? (·.slot? h value) := by
  induction params generalizing c with
  | nil => simp [search]
  | cons param rest ih =>
    rw [search]
    split
    · next pruned =>
      rw [Bool.and_eq_true, Bool.not_eq_true'] at pruned
      exact (List.findSome?_eq_none_iff.2 fun d hd => slot?_eq_none pruned.1 pruned.2 hd).symm
    · rw [List.foldl_cons, Signature.foldl_extend_eq_flatMap, findSome?_flatMap]
      simp [Signature.extend, List.findSome?_map, ih, Function.comp_def]

end Combination

/-- Where the signature takes a value of the given type. -/
def Signature.slot? (s : Signature) (h : Hierarchy) (value : TypeExpr) : Option Slot :=
  Combination.search h value {} s.params

/-- The slot is the first one among all combinations. -/
theorem Signature.slot?_eq (s : Signature) (h : Hierarchy) (value : TypeExpr) :
    s.slot? h value = s.combinations.findSome? (·.slot? h value) :=
  Combination.search_eq h value {} s.params

end SignatureAudit
