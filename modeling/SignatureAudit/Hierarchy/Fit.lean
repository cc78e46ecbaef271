import SignatureAudit.Hierarchy.Subtype

/-!
# How a value fits a declared type

A value can be passed for a parameter directly, or as an element of an array literal. A
declaration that constrains nothing never counts as a fit, and among the arms of a union a direct
fit counts before one as an element.
-/

namespace SignatureAudit

/-- How a declared type admits a value. -/
inductive Fit
  /-- The value is passed as it is. -/
  | direct
  /-- The value is wrapped in an array literal. -/
  | element
  deriving DecidableEq, Repr

/-- The better of two fits: direct before element, and any fit before none. -/
def Fit.better : Option Fit → Option Fit → Option Fit
  | some .direct, _ => some .direct
  | _, some .direct => some .direct
  | some .element, _ => some .element
  | none, other => other

namespace Hierarchy

mutual

/-- How a parameter of the declared type can receive a value of the other type. -/
def fit? (h : Hierarchy) : (declared value : TypeExpr) → Option Fit
  | .any, _ | .none, _ => Option.none
  | .union arms, value => bestFit? h arms value
  | .named name, value => if h.isSubtype value (.named name) then some .direct else Option.none
  | .array, value => if value.isArray then some .direct else Option.none
  | .arrayOf elem, value =>
    if value.isArray && h.isSubtype value (.arrayOf elem) then some .direct
    else (fit? h elem value).map fun _ => .element

/-- The best fit among the arms of a union. -/
def bestFit? (h : Hierarchy) : (arms : List TypeExpr) → (value : TypeExpr) → Option Fit
  | [], _ => Option.none
  | arm :: rest, value => Fit.better (fit? h arm value) (bestFit? h rest value)

end

end Hierarchy

end SignatureAudit
