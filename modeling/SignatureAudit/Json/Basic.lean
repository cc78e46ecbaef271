/-!
# JSON documents

A JSON document as it is written: a number keeps its literal, an object keeps its members in order
with repeated names, and a string whose escapes form no Unicode text is kept apart from the strings
that do, since only a string that is used has to be text.
-/

namespace SignatureAudit

/-- A JSON value as it is written. -/
inductive Json
  | null
  | bool (value : Bool)
  | number (literal : String)
  /-- A string; without a value if a surrogate escape stands alone in it. -/
  | string (text : Option String)
  | array (items : List Json)
  /-- An object; a member's name is a string like any other. -/
  | object (members : List (Option String × Json))
  deriving Repr, Inhabited

namespace Json

/-- The pieces of a JSON document. -/
inductive Token
  | opening (object : Bool)
  | closing (object : Bool)
  | colon
  | comma
  | string (text : Option String)
  | number (literal : String)
  | null
  | bool (value : Bool)
  deriving Repr

end Json

end SignatureAudit
