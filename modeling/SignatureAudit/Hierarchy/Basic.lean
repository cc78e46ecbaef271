import Std.Data.HashMap

/-!
# Hierarchies of named types

A hierarchy is built from rows `(name, parent)`. `Hierarchy.ofRows` accepts rows whose names are
distinct, whose parents are declared, and whose parent links never come back to where they
started; it keeps the chain of ancestors of every name, nearest first and the name itself in
front. A chain that is longer than the table repeats a name, so the length of the table bounds
every ascent.
-/

namespace SignatureAudit

/-- A named type and its parent, if it has one. -/
abbrev TypeRow := String × Option String

/-- Named types with their ancestors. -/
structure Hierarchy where
  /-- Each name with its ancestors, the name itself first and the root last. -/
  chains : List (String × List String)
  deriving DecidableEq, Repr

namespace Hierarchy

/-- Why rows are no hierarchy. -/
inductive Fault
  /-- The name is declared again. -/
  | duplicate (name : String)
  /-- The parent that a name was given is not declared. -/
  | unknownParent (name parent : String)
  /-- The ascent that started at this name does not end. -/
  | cycle (start : String)
  deriving DecidableEq, Repr

/-- The wording of a fault. -/
def Fault.message : Fault → String
  | .duplicate name => "Duplicate type '" ++ name ++ "'"
  | .unknownParent name parent => "Unknown parent type '" ++ parent ++ "' for '" ++ name ++ "'"
  | .cycle start => "Type hierarchy cycle through '" ++ start ++ "'"

/-- The first element of a list that stands among `seen` or earlier in the list. -/
def firstRepeated? (seen : List String) : List String → Option String
  | [] => none
  | name :: rest => if name ∈ seen then some name else firstRepeated? (name :: seen) rest

theorem firstRepeated?_eq_none {names seen : List String} (h : firstRepeated? seen names = none) :
    names.Nodup ∧ ∀ name ∈ names, name ∉ seen := by
  induction names generalizing seen with
  | nil => simp
  | cons name rest ih =>
    rw [firstRepeated?] at h
    split at h
    · simp at h
    · next fresh =>
      have ⟨distinct, unseen⟩ := ih h
      exact ⟨List.nodup_cons.2 ⟨fun again => unseen name again (by simp), distinct⟩,
        List.forall_mem_cons.2 ⟨fresh, fun other hm seen => unseen other hm (by simp [seen])⟩⟩

/-- The names from `name` up to its root, with at most `steps` names; `start` is where the ascent
began. Each name has its parent, if it has one, in a table of the declared names. -/
def ascend (table : String → Option (Option String)) (start : String) :
    (steps : Nat) → (name : String) → Except Fault (List String)
  | 0, _ => .error (.cycle start)
  | steps + 1, name =>
    match (table name).join with
    | none => .ok [name]
    | some parent =>
      if (table parent).isSome then do
        let above ← ascend table start steps parent
        .ok (name :: above)
      else .error (.unknownParent name parent)

/-- The chains of ancestors of the names of some rows. -/
def chainsOf (table : String → Option (Option String)) (rows : List TypeRow) :
    Except Fault (List (String × List String)) :=
  rows.mapM fun row => do
    let chain ← ascend table row.1 rows.length row.1
    .ok (row.1, chain)

/-- A table of rows in which a name is found at once. -/
def indexOf (rows : List TypeRow) : Std.HashMap String (Option String) := Std.HashMap.ofList rows

theorem getElem?_indexOf {rows : List TypeRow} (distinct : (rows.map (·.1)).Nodup) (name : String) :
    (indexOf rows)[name]? = rows.lookup name := by
  have apart : rows.Pairwise fun a b => (a.1 == b.1) = false :=
    (List.pairwise_map.1 distinct).imp fun ne => beq_eq_false_iff_ne.2 ne
  cases found : rows.lookup name with
  | none =>
    refine Std.HashMap.getElem?_ofList_of_contains_eq_false ?_
    simp only [List.lookup_eq_none_iff, bne_iff_ne] at found
    simp only [List.contains_eq_mem, decide_eq_false_iff_not, List.mem_map, not_exists, not_and]
    exact fun row hm same => found row hm same.symm
  | some parent =>
    obtain ⟨front, rest, rfl, -⟩ := List.lookup_eq_some_iff.1 found
    exact Std.HashMap.getElem?_ofList_of_mem (beq_self_eq_true name) apart (by simp)

/-- The hierarchy that rows describe, or the first fault: a repeated name counts before all else,
then the rows are ascended from in their order. -/
def ofRows (rows : List TypeRow) : Except Fault Hierarchy :=
  match firstRepeated? [] (rows.map (·.1)) with
  | some name => .error (.duplicate name)
  | none => do
    let index := indexOf rows
    .ok ⟨← chainsOf (fun name => index[name]?) rows⟩

/-- Of distinct names, the chains are those that looking names up row by row gives. -/
theorem ofRows_eq {rows : List TypeRow} (distinct : firstRepeated? [] (rows.map (·.1)) = none) :
    ofRows rows = mk <$> chainsOf (fun name => rows.lookup name) rows := by
  have same : (fun name => (indexOf rows)[name]?) = fun name => rows.lookup name :=
    funext (getElem?_indexOf (firstRepeated?_eq_none distinct).1)
  simp only [ofRows, distinct, same]
  cases chainsOf (fun name => rows.lookup name) rows <;> rfl

/-- Whether a name is declared. -/
def contains (h : Hierarchy) (name : String) : Bool := (h.chains.lookup name).isSome

/-- The name itself, its parent, the parent of that, and so on; nothing for an undeclared name. -/
def ancestors (h : Hierarchy) (name : String) : List String := (h.chains.lookup name).getD []

/-- Whether one named type is the other or has it among its ancestors. An undeclared name is
related to itself only. -/
def isNamedSubtype (h : Hierarchy) (sub sup : String) : Bool :=
  sub == sup || (h.ancestors sub).any (· == sup)

end Hierarchy

end SignatureAudit
