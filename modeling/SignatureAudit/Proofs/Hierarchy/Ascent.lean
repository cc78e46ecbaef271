import SignatureAudit.Hierarchy.Basic
import SignatureAudit.Proofs.Entries
import Mathlib.Data.List.Perm.Subperm
import Mathlib.Logic.Relation

/-!
# Ascents

An ascent follows the parents of a name. It ends at a root, and has then listed the *lineage* of the
name (`Lineage`); or something obstructs it (`Obstructs`): a parent that is not declared, or parents
that lead round in a circle, so that there is no end (`Endless`).

`climb` is the ascent that remembers the names it has passed, and gives up where it comes to one of
them again. It ends because every step passes a declared name for the first time. `ascend` counts
its steps instead. With as many steps as there are rows the two agree (`ascend_eq_climb`): the names
that were passed differ and are declared, so the steps cannot run out before a name comes again.
-/

namespace SignatureAudit.Hierarchy

open Relation (ReflTransGen TransGen)

/-- Some row gives the name this parent. -/
def IsParent (rows : List TypeRow) (name parent : String) : Prop := (name, some parent) ∈ rows

/-- The names from a name up to a root, each the parent of the one in front of it. -/
inductive Lineage (rows : List TypeRow) : String → List String → Prop
  | root {name : String} (row : (name, none) ∈ rows) : Lineage rows name [name]
  | child {name parent : String} {above : List String} (up : IsParent rows name parent)
      (higher : Lineage rows parent above) : Lineage rows name (name :: above)

/-- The parents of the name lead to a name that is above itself. -/
def Endless (rows : List TypeRow) (name : String) : Prop :=
  ∃ turn, ReflTransGen (IsParent rows) name turn ∧ TransGen (IsParent rows) turn turn

/-- What keeps an ascent from a root. -/
inductive Obstructs (rows : List TypeRow) (start : String) : Fault → Prop
  | unknownParent {name parent : String} (above : ReflTransGen (IsParent rows) start name)
      (up : IsParent rows name parent) (undeclared : parent ∉ rows.map (·.1)) :
      Obstructs rows start (.unknownParent name parent)
  | cycle (endless : Endless rows start) : Obstructs rows start (.cycle start)

variable {rows : List TypeRow} {start name parent other : String} {steps : Nat}
  {chain passed : List String} {fault : Fault}

/-! ## Looking names up -/

theorem isParent_of_lookup (found : (rows.lookup name).join = some parent) :
    IsParent rows name parent :=
  mem_of_lookup (Option.join_eq_some_iff.1 found)

theorem root_of_lookup (hname : name ∈ rows.map (·.1)) (found : (rows.lookup name).join = none) :
    (name, none) ∈ rows := by
  obtain ⟨parent, listed⟩ := Option.isSome_iff_exists.1 (isSome_lookup_iff.2 hname)
  rw [listed] at found
  cases parent with
  | none => exact mem_of_lookup listed
  | some parent => cases found

theorem IsParent.lookup (up : IsParent rows name parent) (distinct : (rows.map (·.1)).Nodup) :
    (rows.lookup name).join = some parent := by
  rw [lookup_eq_some_of_mem distinct up, Option.join_some]

theorem IsParent.declared (up : IsParent rows name parent) : name ∈ rows.map (·.1) :=
  List.mem_map_of_mem up

theorem IsParent.unique (up : IsParent rows name parent) (distinct : (rows.map (·.1)).Nodup)
    (up' : IsParent rows name other) : parent = other :=
  Option.some.inj ((up.lookup distinct).symm.trans (up'.lookup distinct))

theorem IsParent.not_root (up : IsParent rows name parent) (distinct : (rows.map (·.1)).Nodup) :
    (name, none) ∉ rows := by
  intro root
  have found := up.lookup distinct
  rw [lookup_eq_some_of_mem distinct root] at found
  cases found

/-! ## Endless ascents -/

/-- The parent of a name without an end has none either. -/
theorem Endless.exists_parent (endless : Endless rows name) :
    ∃ parent, IsParent rows name parent ∧ Endless rows parent := by
  obtain ⟨turn, above, loops⟩ := endless
  rcases above.cases_head with rfl | ⟨parent, up, higher⟩
  · obtain ⟨parent, up, back⟩ := TransGen.head'_iff.1 loops
    exact ⟨parent, up, name, back, loops⟩
  · exact ⟨parent, up, turn, higher, loops⟩

theorem Endless.declared (endless : Endless rows name) : name ∈ rows.map (·.1) := by
  obtain ⟨parent, up, -⟩ := endless.exists_parent
  exact up.declared

theorem endless_of_loop (loops : TransGen (IsParent rows) name name) : Endless rows name :=
  ⟨name, .refl, loops⟩

/-- No number of steps is enough for an ascent without an end. -/
theorem ascend_of_endless (distinct : (rows.map (·.1)).Nodup) (endless : Endless rows name) :
    ascend (rows.lookup ·) start steps name = .error (.cycle start) := by
  induction steps generalizing name with
  | zero => rfl
  | succ steps ih =>
    obtain ⟨parent, up, higher⟩ := endless.exists_parent
    have listed := isSome_lookup_iff.2 higher.declared
    rw [ascend, up.lookup distinct]
    simp only [if_pos listed, ih higher]
    rfl

/-! ## Lineages -/

namespace Lineage

theorem declared (lineage : Lineage rows name chain) : name ∈ rows.map (·.1) := by
  cases lineage with
  | root row => exact List.mem_map_of_mem row
  | child up => exact up.declared

theorem subset (lineage : Lineage rows name chain) : chain ⊆ rows.map (·.1) := by
  induction lineage with
  | root row => exact List.cons_subset.2 ⟨List.mem_map_of_mem row, List.nil_subset _⟩
  | child up _ ih => exact List.cons_subset.2 ⟨up.declared, ih⟩

/-- A lineage lists what the parents lead to. -/
theorem mem_iff (distinct : (rows.map (·.1)).Nodup) (lineage : Lineage rows name chain) :
    other ∈ chain ↔ ReflTransGen (IsParent rows) name other := by
  induction lineage with
  | root row =>
    rw [List.mem_singleton]
    constructor
    · rintro rfl
      exact .refl
    · intro above
      rcases above.cases_head with same | ⟨parent, up, -⟩
      · exact same.symm
      · exact absurd row (up.not_root distinct)
  | child up _ ih =>
    rw [List.mem_cons, ih]
    constructor
    · rintro (rfl | higher)
      · exact .refl
      · exact higher.head up
    · intro above
      rcases above.cases_head with same | ⟨parent, up', higher⟩
      · exact .inl same.symm
      · exact .inr (up.unique distinct up' ▸ higher)

theorem unique (distinct : (rows.map (·.1)).Nodup) (lineage : Lineage rows name chain)
    {chain' : List String} (lineage' : Lineage rows name chain') : chain = chain' := by
  induction lineage generalizing chain' with
  | root row =>
    cases lineage' with
    | root => rfl
    | child up => exact absurd row (up.not_root distinct)
  | child up _ ih =>
    cases lineage' with
    | root row => exact absurd row (up.not_root distinct)
    | child up' higher' =>
      obtain rfl := up.unique distinct up'
      rw [ih higher']

theorem not_endless (distinct : (rows.map (·.1)).Nodup) (lineage : Lineage rows name chain) :
    ¬Endless rows name := by
  induction lineage with
  | root row =>
    intro endless
    obtain ⟨parent, up, -⟩ := endless.exists_parent
    exact up.not_root distinct row
  | child up _ ih =>
    intro endless
    obtain ⟨parent, up', higher⟩ := endless.exists_parent
    exact ih (up.unique distinct up' ▸ higher)

theorem nodup (distinct : (rows.map (·.1)).Nodup) (lineage : Lineage rows name chain) :
    chain.Nodup := by
  induction lineage with
  | root row => exact List.pairwise_singleton ..
  | child up higher ih =>
    refine List.nodup_cons.2 ⟨fun again => ?_, ih⟩
    -- a name that stands above its parent is above itself
    have loops := TransGen.head' up ((higher.mem_iff distinct).1 again)
    exact not_endless distinct (.child up higher) (endless_of_loop loops)

/-- What has a lineage meets no obstruction. -/
theorem not_obstructs (distinct : (rows.map (·.1)).Nodup) (lineage : Lineage rows name chain) :
    ¬Obstructs rows name fault := by
  rintro (⟨above, up, undeclared⟩ | endless)
  · exact undeclared (lineage.subset ((lineage.mem_iff distinct).2 (above.tail up)))
  · exact lineage.not_endless distinct endless

end Lineage

/-! ## Climbing with a memory -/

theorem length_unpassed_lt {names : List String} (among : name ∈ names) (fresh : name ∉ passed) :
    (names.filter (· ∉ name :: passed)).length < (names.filter (· ∉ passed)).length := by
  have fewer : names.filter (· ∉ name :: passed) = (names.filter (· ∉ passed)).filter (· ≠ name) := by
    rw [List.filter_filter]
    refine List.filter_congr fun other _ => ?_
    rw [← Bool.decide_and, decide_eq_decide, List.mem_cons, not_or]
  rw [fewer, List.length_filter_lt_length_iff_exists]
  exact ⟨name, List.mem_filter.2 ⟨among, decide_eq_true fresh⟩, by simp⟩

/-- The names from `name` up to its root, unless a parent is not declared or was `passed` on the way
from `start`. -/
def climb (rows : List TypeRow) (start : String) (passed : List String) (name : String) :
    Except Fault (List String) :=
  match (rows.lookup name).join with
  | none => .ok [name]
  | some parent =>
    if _ : parent ∈ rows.map (·.1) then
      if _ : parent ∈ passed then .error (.cycle start)
      else (climb rows start (parent :: passed) parent).map (name :: ·)
    else .error (.unknownParent name parent)
termination_by ((rows.map (·.1)).filter (· ∉ passed)).length
decreasing_by exact length_unpassed_lt ‹_› ‹_›

theorem lineage_of_climb (hname : name ∈ rows.map (·.1))
    (h : climb rows start passed name = .ok chain) : Lineage rows name chain := by
  fun_induction climb rows start passed name generalizing chain with
  | case1 passed name found =>
    rw [← Except.ok.inj h]
    exact .root (root_of_lookup hname found)
  | case2 => cases h
  | case3 passed name parent found declared again ih =>
    cases climbed : climb rows start (parent :: passed) parent with
    | error fault =>
      rw [climbed] at h
      cases h
    | ok above =>
      rw [climbed] at h
      rw [← Except.ok.inj h]
      exact .child (isParent_of_lookup found) (ih declared climbed)
  | case4 => cases h

/-- A climb that fails has met an obstruction, if all the names that were passed are below. -/
theorem obstructs_of_climb (below : ∀ other ∈ passed, ReflTransGen (IsParent rows) other name)
    (reached : ReflTransGen (IsParent rows) start name)
    (h : climb rows start passed name = .error fault) : Obstructs rows start fault := by
  fun_induction climb rows start passed name with
  | case1 => cases h
  | case2 passed name parent found declared again =>
    have up := isParent_of_lookup found
    rw [← Except.error.inj h]
    exact .cycle ⟨parent, reached.tail up, TransGen.tail' (below parent again) up⟩
  | case3 passed name parent found declared again ih =>
    have up := isParent_of_lookup found
    have below' : ∀ other ∈ parent :: passed, ReflTransGen (IsParent rows) other parent :=
      List.forall_mem_cons.2 ⟨.refl, fun other hother => (below other hother).tail up⟩
    refine ih below' (reached.tail up) ?_
    cases climbed : climb rows start (parent :: passed) parent with
    | error fault =>
      rw [climbed] at h
      exact h
    | ok above =>
      rw [climbed] at h
      cases h
  | case4 passed name parent found undeclared =>
    rw [← Except.error.inj h]
    exact .unknownParent reached (isParent_of_lookup found) undeclared

theorem obstructs_of_climb_self (h : climb rows name [name] name = .error fault) :
    Obstructs rows name fault :=
  obstructs_of_climb (List.forall_mem_singleton.2 .refl) .refl h

/-- Counting steps comes to the same as remembering names. -/
theorem ascend_eq_climb (distinct : (rows.map (·.1)).Nodup) (different : passed.Nodup)
    (within : passed ⊆ rows.map (·.1))
    (below : ∀ other ∈ passed, ReflTransGen (IsParent rows) other name)
    (enough : rows.length < steps + passed.length) :
    ascend (rows.lookup ·) start steps name = climb rows start passed name := by
  induction steps generalizing name passed with
  | zero =>
    -- more names would have been passed than there are rows
    have fits := (List.subperm_of_subset different within).length_le
    rw [List.length_map] at fits
    omega
  | succ steps ih =>
    rw [ascend, climb]
    cases found : (rows.lookup name).join with
    | none => rfl
    | some parent =>
      have up := isParent_of_lookup found
      by_cases declared : parent ∈ rows.map (·.1)
      · simp only [if_pos (isSome_lookup_iff.2 declared), dif_pos declared]
        by_cases again : parent ∈ passed
        · have loops := TransGen.tail' (below parent again) up
          rw [dif_pos again, ascend_of_endless distinct (endless_of_loop loops)]
          rfl
        · have below' : ∀ other ∈ parent :: passed, ReflTransGen (IsParent rows) other parent :=
            List.forall_mem_cons.2 ⟨.refl, fun other hother => (below other hother).tail up⟩
          rw [dif_neg again, ← ih (List.nodup_cons.2 ⟨again, different⟩)
            (List.cons_subset.2 ⟨declared, within⟩) below' (by rw [List.length_cons]; omega)]
          cases ascend (rows.lookup ·) start steps parent <;> rfl
      · have unlisted : ¬(rows.lookup parent).isSome = true := mt isSome_lookup_iff.1 declared
        simp only [if_neg unlisted, dif_neg declared]

/-- With as many steps as rows, an ascent is a climb that remembers where it started. -/
theorem ascend_length_eq_climb (distinct : (rows.map (·.1)).Nodup)
    (hname : name ∈ rows.map (·.1)) :
    ascend (rows.lookup ·) name rows.length name = climb rows name [name] name := by
  refine ascend_eq_climb distinct (List.pairwise_singleton ..) ?_ ?_ ?_
  · exact List.cons_subset.2 ⟨hname, List.nil_subset _⟩
  · exact List.forall_mem_singleton.2 .refl
  · exact Nat.lt_succ_self _

/-- A climb from a declared name lists its lineage. -/
theorem climb_eq_ok_iff (distinct : (rows.map (·.1)).Nodup) (hname : name ∈ rows.map (·.1)) :
    climb rows name [name] name = .ok chain ↔ Lineage rows name chain := by
  refine ⟨lineage_of_climb hname, fun lineage => ?_⟩
  cases climbed : climb rows name [name] name with
  | error fault => exact absurd (obstructs_of_climb_self climbed) (lineage.not_obstructs distinct)
  | ok above => rw [(lineage_of_climb hname climbed).unique distinct lineage]

/-- A climb from a declared name goes round in a circle if it has no end. -/
theorem climb_eq_cycle_iff (distinct : (rows.map (·.1)).Nodup) (hname : name ∈ rows.map (·.1)) :
    climb rows name [name] name = .error (.cycle other) ↔ other = name ∧ Endless rows name := by
  constructor
  · intro climbed
    cases obstructs_of_climb_self climbed with
    | cycle endless => exact ⟨rfl, endless⟩
  · rintro ⟨rfl, endless⟩
    rw [← ascend_length_eq_climb distinct hname, ascend_of_endless distinct endless]

end SignatureAudit.Hierarchy
