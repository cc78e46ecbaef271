import SignatureAudit.Catalog.Basic

/-!
# Listing signatures

Types come before functions. A type stands with its parent, and under it, indented, stand the
signatures of the methods that it declares itself.
-/

namespace SignatureAudit

/-- The lines that list a type. -/
def TypeInfo.listing (t : TypeInfo) : List String :=
  (match t.parent with
    | some parent => t.name ++ " < " ++ parent
    | none => t.name)
    :: (t.methods.flatMap (·.overloads)).map ("    " ++ ·.display)

/-- The lines that list a callable. -/
def Callable.listing (c : Callable) : List String := c.overloads.map (·.display)

/-- The lines that list some types and functions. -/
def listing (types : List TypeInfo) (functions : List Callable) : List String :=
  types.flatMap (·.listing) ++ functions.flatMap (·.listing)

end SignatureAudit
