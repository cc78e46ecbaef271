/-!
# Methods that are written as operators

Eight method names stand for operators of the build language. Each takes a fixed number of
arguments, and `spell` writes the call only for exactly that number.
-/

namespace SignatureAudit

/-- How an operator method is written. -/
inductive Operator
  /-- A sign between the receiver and the argument. -/
  | binary (sign : String)
  /-- The element at an index. -/
  | getItem
  /-- An assignment to the element at an index. -/
  | setItem
  /-- Whether the receiver contains the argument. -/
  | contains
  deriving DecidableEq, Repr

namespace Operator

/-- The operator that a method name stands for. -/
def ofName? : String → Option Operator
  | "__add__" => some (.binary "+")
  | "__sub__" => some (.binary "-")
  | "__mult__" => some (.binary "*")
  | "__div__" => some (.binary "/")
  | "__mod__" => some (.binary "%")
  | "__getitem__" => some .getItem
  | "__setitem__" => some .setItem
  | "__contains__" => some .contains
  | _ => none

/-- The number of arguments. -/
def arity : Operator → Nat
  | .setItem => 2
  | _ => 1

/-- The call on a receiver, if the number of arguments is right. -/
def spell (op : Operator) (receiver : String) (args : List String) : Option String :=
  match op, args with
  | .binary sign, [a] => some (receiver ++ " " ++ sign ++ " " ++ a)
  | .getItem, [a] => some (receiver ++ "[" ++ a ++ "]")
  | .setItem, [a, b] => some (receiver ++ "[" ++ a ++ "] = " ++ b)
  | .contains, [a] => some (a ++ " in " ++ receiver)
  | _, _ => none

theorem spell_isSome_iff (op : Operator) (receiver : String) (args : List String) :
    (op.spell receiver args).isSome = true ↔ args.length = op.arity := by
  cases op <;> rcases args with _ | ⟨a, _ | ⟨b, _ | ⟨c, rest⟩⟩⟩ <;> simp [spell, arity]

end Operator

end SignatureAudit
