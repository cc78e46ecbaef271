import SignatureAudit.Json.Reader
import SignatureAudit.SortedMap
import SignatureAudit.Text.Digit

/-!
# Records in JSON documents

A record is written as an object with named fields, or as an array of the fields in their order.
An object may have members that are no fields, whatever they contain, but it must not give a field
twice; an array may end early, but must not have more items than there are fields. What the fields
mean is up to the readers of their values.
-/

namespace SignatureAudit.Json

/-- The value of a string. -/
def string? : Json → Option String
  | .string text => text
  | _ => none

/-- The items of an array, each read by `item?`. -/
def list? {α : Type} (item? : Json → Option α) : Json → Option (List α)
  | .array items => items.mapM item?
  | _ => none

/-- The members of an object, each value read by `item?`, as a map. -/
def map? {α : Type} (item? : Json → Option α) : Json → Option (List (String × α))
  | .object members => do
    let entries ← members.mapM fun (name, value) => do some (← name, ← item? value)
    some (sortedMap entries)
  | _ => none

/-- A value that can be null. -/
def nullable? {α : Type} (item? : Json → Option α) : Json → Option (Option α)
  | .null => some none
  | value => (item? value).map some

/-- An integer from zero up to `2 ^ bits - 1`, without fraction, exponent or sign. -/
def natural? (bits : Nat) : Json → Option Nat
  | .number literal =>
    if literal.toList.all Char.isDigit then
      let n := Text.digitsValue literal.toList
      if n < Nat.pow 2 bits then some n else none
    else none
  | _ => none

/-- The values that members give to a field: more than one is a fault, none leaves it open. -/
def member? (members : List (String × Json)) (field : String) : Option (Option Json) :=
  match members.filter (·.1 == field) with
  | [] => some none
  | [(_, value)] => some (some value)
  | _ => none

/-- The values of the fields of a record, in the order of `fields`; a field can be left open. -/
def record? (fields : List String) : Json → Option (List (Option Json))
  | .object members => do
    let members ← members.mapM fun (name, value) => do some (← name, value)
    fields.mapM (member? members)
  | .array items =>
    if items.length ≤ fields.length then
      some (items.map some ++ List.replicate (fields.length - items.length) none)
    else none
  | _ => none

/-- The value of a field that can be left open. -/
def field? {α : Type} (item? : Json → Option α) (default : α) : Option Json → Option α
  | none => some default
  | some value => item? value

end SignatureAudit.Json
