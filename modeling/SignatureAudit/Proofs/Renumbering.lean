import SignatureAudit.Proofs.NameSupply
import Mathlib.Order.Monotone.Basic

/-!
# Which names are drawn

A computation may draw a number of names that does not depend on what the names are, and give what
depends on these names only (`Naming.Reads`). Expanding a template is such a computation: it draws
one name for each fresh-name marker. So it gives the same from another supply in which the same
names are next.

`NameSupply.without` is a supply from which the names of some numbers are left out, the others
keeping their order. What is computed from it is computed from the first supply, up to the numbers
that the names have.
-/

namespace SignatureAudit

/-! ## Leaving names out -/

namespace NameSupply

/-- The number of the name that comes in the `i`-th place when the names of some numbers, which
stand in ascending order, are passed over. -/
def passOver : (numbers : List Nat) → (i : Nat) → Nat
  | [], i => i
  | number :: rest, i => if i < number then i else passOver rest (i + 1)

variable {number : Nat} {numbers : List Nat} {i j : Nat}

theorem passOver_of_lt (h : i < number) : passOver (number :: numbers) i = i := by
  unfold passOver
  rw [if_pos h]

theorem passOver_of_le (h : number ≤ i) :
    passOver (number :: numbers) i = passOver numbers (i + 1) := by
  conv => lhs; unfold passOver
  rw [if_neg (by omega)]

theorem passOver_of_forall_lt (h : ∀ number ∈ numbers, i < number) : passOver numbers i = i := by
  cases numbers with
  | nil => rfl
  | cons number rest => exact passOver_of_lt (h number List.mem_cons_self)

theorem le_passOver (numbers : List Nat) (i : Nat) : i ≤ passOver numbers i := by
  induction numbers generalizing i with
  | nil => exact Nat.le_refl i
  | cons number rest ih =>
    by_cases h : i < number
    · exact Nat.le_of_eq (passOver_of_lt h).symm
    · rw [passOver_of_le (by omega)]
      have := ih (i + 1)
      omega

/-- The other names keep their order. -/
theorem strictMono_passOver (numbers : List Nat) : StrictMono (passOver numbers) := by
  induction numbers with
  | nil =>
    intro i j less
    exact less
  | cons number rest ih =>
    intro i j less
    by_cases hj : j < number
    · rw [passOver_of_lt hj, passOver_of_lt (Nat.lt_trans less hj)]
      exact less
    · have later : passOver (number :: rest) j = passOver rest (j + 1) :=
        passOver_of_le (by omega)
      rw [later]
      by_cases hi : i < number
      · rw [passOver_of_lt hi]
        have := le_passOver rest (j + 1)
        omega
      · rw [passOver_of_le (by omega)]
        exact ih (by omega)

/-- Exactly the given numbers are passed over. -/
theorem exists_passOver_iff (ascending : numbers.Pairwise (· < ·)) :
    (∃ i, passOver numbers i = j) ↔ j ∉ numbers := by
  induction numbers with
  | nil => simp [passOver]
  | cons number rest ih =>
    obtain ⟨first, others⟩ := List.pairwise_cons.1 ascending
    rw [List.mem_cons, not_or, ← ih others]
    constructor
    · rintro ⟨i, rfl⟩
      by_cases h : i < number
      · rw [passOver_of_lt h]
        refine ⟨by omega, i, passOver_of_forall_lt fun other hother => ?_⟩
        have := first other hother
        omega
      · rw [passOver_of_le (by omega)]
        have := le_passOver rest (i + 1)
        exact ⟨by omega, i + 1, rfl⟩
    · rintro ⟨different, i, rfl⟩
      by_cases h : i ≤ number
      · have same : passOver rest i = i := passOver_of_forall_lt fun other hother => by
          have := first other hother
          omega
        rw [same] at different ⊢
        exact ⟨i, passOver_of_lt (by omega)⟩
      · refine ⟨i - 1, ?_⟩
        rw [passOver_of_le (by omega), Nat.sub_add_cancel (by omega)]

/-- The supply without the names of some numbers. -/
def without (n : NameSupply) (numbers : List Nat) : NameSupply :=
  { n with name := fun i => n.name (passOver numbers i) }

/-- The supply behind so many more draws. -/
def behind (n : NameSupply) (count : Nat) : NameSupply := { n with drawn := n.drawn + count }

@[simp] theorem name_behind (n : NameSupply) (count : Nat) : (n.behind count).name = n.name := rfl

@[simp] theorem drawn_behind (n : NameSupply) (count : Nat) :
    (n.behind count).drawn = n.drawn + count := rfl

/-- In both supplies the same names are next. -/
def SameNext (n m : NameSupply) (count : Nat) : Prop :=
  ∀ i < count, n.name (n.drawn + i) = m.name (m.drawn + i)

end NameSupply

/-! ## Reading a number of names -/

/-- The computation draws so many names, and what it gives depends on these only. -/
structure Naming.Reads {α : Type} (x : Naming α) (count : Nat) : Prop where
  left : ∀ n : NameSupply, (x.run n).2 = n.behind count
  value : ∀ n m : NameSupply, n.SameNext m count → (x.run n).1 = (x.run m).1

namespace Naming.Reads

variable {α β : Type} {x : Naming α} {f : α → Naming β} {count more : Nat}

theorem pure (a : α) : Reads (Pure.pure a : Naming α) 0 := ⟨fun _ => rfl, fun _ _ _ => rfl⟩

theorem draw : Reads Naming.draw 1 := ⟨fun _ => rfl, fun _ _ same => same 0 Nat.zero_lt_one⟩

theorem bind (hx : Reads x count) (hf : ∀ a, Reads (f a) more) :
    Reads (x >>= f) (count + more) := by
  constructor
  · intro n
    rw [Naming.run_bind, (hf _).left, hx.left, NameSupply.behind, NameSupply.behind, Nat.add_assoc]
    rfl
  · intro n m same
    have first : n.SameNext m count := fun i hi => same i (by omega)
    rw [Naming.run_bind, Naming.run_bind, hx.value n m first, hx.left n, hx.left m]
    apply (hf _).value
    intro i hi
    have second := same (count + i) (by omega)
    rw [← Nat.add_assoc, ← Nat.add_assoc] at second
    exact second

end Naming.Reads

open Naming (Reads)

/-! ## Templates -/

namespace Template

/-- Between two pieces stands one name. -/
theorem reads_joinFresh (pieces : List String) : Reads (joinFresh pieces) (pieces.length - 1) := by
  induction pieces with
  | nil => exact .pure _
  | cons piece rest ih =>
    cases rest with
    | nil => exact .pure _
    | cons next rest =>
      have whole := Reads.draw.bind fun name => ih.bind fun later =>
        Reads.pure (piece ++ quoted name ++ later)
      rw [List.length_cons, Nat.add_sub_cancel] at whole ⊢
      rw [List.length_cons]
      have count : 1 + (rest.length + 0) = rest.length + 1 := by omega
      rw [count] at whole
      exact whole

/-- The number of fresh-name markers in a template. -/
def freshCount (text : String) : Nat := (Text.pieces freshMarker text).length - 1

theorem reads_expand (directory : Option String) (text : String) :
    Reads (expand directory text) (freshCount text) := by
  show Reads (expand directory text) (freshCount text + 0)
  refine (reads_joinFresh (Text.pieces freshMarker text)).bind fun named => ?_
  cases directory with
  | none => exact .pure _
  | some directory => exact .pure _

end Template

end SignatureAudit
