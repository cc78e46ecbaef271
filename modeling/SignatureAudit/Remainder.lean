/-!
# What a reader leaves over

A reader takes something off the front of a list and returns the rest. The rest is shorter than the
list, and carrying that fact in the type is what lets readers call each other without a bound.
-/

namespace SignatureAudit

/-- What is left of a list after at least one element has been taken off its front. -/
abbrev Remainder {α : Type} (l : List α) := { rest : List α // rest.length < l.length }

/-- What is left of a list after perhaps some elements have been taken off its front. -/
abbrev Leftover {α : Type} (l : List α) := { rest : List α // rest.length ≤ l.length }

/-- The whole list, of which nothing has been taken off. -/
def Leftover.all {α : Type} {l : List α} : Leftover l := ⟨l, Nat.le_refl _⟩

namespace Remainder

variable {α : Type} {l : List α}

/-- All but the first element. -/
def tail {a : α} : Remainder (a :: l) := ⟨l, by simp⟩

/-- What is left of a remainder is left of the whole. -/
def widen (rest : Remainder l) (inner : Remainder rest.val) : Remainder l :=
  ⟨inner.val, Nat.lt_trans inner.property rest.property⟩

/-- What is left after perhaps some more elements have been taken off. -/
def shrink (rest : Remainder l) (left : Leftover rest.val) : Remainder l :=
  ⟨left.val, Nat.lt_of_le_of_lt left.property rest.property⟩

/-- A remainder is left over after perhaps more elements than one have been taken off. -/
def leave (rest : Remainder l) (left : Leftover rest.val) : Leftover l :=
  ⟨left.val, Nat.le_of_lt (rest.shrink left).property⟩

/-- A remainder as what is left after perhaps some elements have been taken off. -/
def toLeftover (rest : Remainder l) : Leftover l := ⟨rest.val, Nat.le_of_lt rest.property⟩

/-- What is left after some more elements have been dropped. -/
def dropWhile (rest : Remainder l) (p : α → Bool) : Remainder l :=
  rest.shrink ⟨rest.val.dropWhile p, (List.dropWhile_sublist p).length_le⟩

/-- What is left of a list that is not longer. -/
def within {m : List α} (fits : m.length ≤ l.length) (rest : Remainder m) : Remainder l :=
  ⟨rest.val, Nat.lt_of_lt_of_le rest.property fits⟩

/-- What is left behind some elements that are dropped first. -/
def behind (p : α → Bool) (rest : Remainder (l.dropWhile p)) : Remainder l :=
  rest.within (List.dropWhile_sublist p).length_le

/-- What follows the first element that is not dropped is shorter than the list. -/
theorem length_lt_of_dropWhile {p : α → Bool} {a : α} {rest : List α}
    (h : l.dropWhile p = a :: rest) : rest.length < l.length := by
  have := (List.dropWhile_sublist (l := l) p).length_le
  rw [h] at this
  exact this

/-- What follows an element at the front. -/
def after? [DecidableEq α] (a : α) : (l : List α) → Option (Remainder l)
  | b :: _ => if b = a then some .tail else none
  | [] => none

/-- The first element that is not dropped, and what follows it. -/
def first? (p : α → Bool) (l : List α) : Option (α × Remainder l) :=
  match h : l.dropWhile p with
  | a :: rest => some (a, ⟨rest, length_lt_of_dropWhile h⟩)
  | [] => none

end Remainder

end SignatureAudit
