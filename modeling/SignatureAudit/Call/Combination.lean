import SignatureAudit.Signature.Basic

/-!
# Combinations

A combination chooses one concrete type for every parameter of a signature, as one call would. A
union parameter takes each of its arms in turn, so the combinations of a signature are listed with
the first parameter varying slowest. Choosing the absent argument leaves the parameter out, and
from there on the call can only use keywords: later positional and variadic parameters are left
out as well. An unconstrained parameter is called with a number.
-/

namespace SignatureAudit

/-- The concrete type used where a parameter accepts anything. -/
def TypeExpr.standIn : TypeExpr := .named "Number"

/-- The concrete type of a value for a parameter of some type. -/
def TypeExpr.concrete (t : TypeExpr) : TypeExpr := if t = .any then .standIn else t

/-- A parameter and the concrete type chosen for it. -/
structure Argument where
  param : Parameter
  type : TypeExpr
  deriving DecidableEq, Repr

/-- The arguments of one call. -/
structure Combination where
  args : List Argument := []
  /-- An argument was left out, so only keywords can follow. -/
  keywordOnly : Bool := false
  deriving DecidableEq, Repr

namespace Combination

/-- The argument for the parameter of the given name. -/
def get? (c : Combination) (name : String) : Option Argument :=
  c.args.find? (·.param.name == name)

/-- The call in one line, under the given name. -/
def describe (c : Combination) (callable : String) : String :=
  callable ++ "(" ++ Parameter.describeAll (c.args.map fun arg => (arg.param, arg.type)) ++ ")"

/-- Adds the next parameter with the type chosen for it. -/
def push (c : Combination) (param : Parameter) (choice : TypeExpr) : Combination :=
  match choice with
  | .none => { c with keywordOnly := true }
  | choice =>
    if c.keywordOnly && !param.isKeyword then c
    else { c with args := c.args ++ [⟨param, choice.concrete⟩] }

end Combination

namespace Signature

/-- The combinations from those of the parameters so far and the next parameter. -/
def extend (combinations : List Combination) (param : Parameter) : List Combination :=
  combinations.flatMap fun c => param.type.arms.map fun arm => c.push param arm

/-- Every combination of types that the signature permits. -/
def combinations (s : Signature) : List Combination := s.params.foldl extend [{}]

theorem foldl_extend_nil (params : List Parameter) : params.foldl extend [] = [] := by
  induction params with
  | nil => rfl
  | cons param rest ih => exact ih

theorem foldl_extend_append (params : List Parameter) (first second : List Combination) :
    params.foldl extend (first ++ second)
      = params.foldl extend first ++ params.foldl extend second := by
  induction params generalizing first second with
  | nil => rfl
  | cons param rest ih => simp [extend, ih]

/-- The combinations that begin in one of some ways, in the order of these. -/
theorem foldl_extend_eq_flatMap (params : List Parameter) (combinations : List Combination) :
    params.foldl extend combinations = combinations.flatMap fun c => params.foldl extend [c] := by
  induction combinations with
  | nil => exact foldl_extend_nil params
  | cons c rest ih => rw [← List.singleton_append, foldl_extend_append, ih]; rfl

/-- The first combinations, at most so many. No more than these are worked out. -/
def firstCombinations (s : Signature) (limit : Nat) : List Combination :=
  (s.params.foldl (fun few param => (extend few param).take limit) [{}]).take limit

/-- The number of combinations in 64-bit arithmetic: the product of the numbers of arms. -/
def combinationCount (s : Signature) : UInt64 :=
  s.params.foldl (fun n p => n * UInt64.ofNat p.type.arms.length) 1

end Signature

end SignatureAudit
