import SignatureAudit.Proofs.Hierarchy.Rows

/-!
# What faults blame

A fault names a row. A duplicate is declared at least twice, and an unknown parent is not declared
while some row gives it (`Fault.Blames`). A cycle names the row that was climbed from: the first one
without an end (`FirstEndless`). Its parents lead into a circle, but it need not stand on the circle
itself (`cycle_blames_name_below_it`).
-/

namespace SignatureAudit.Hierarchy

open Relation (TransGen)

/-- The rows have what the fault says about the names in it. -/
def Fault.Blames (rows : List TypeRow) : Fault → Prop
  | .duplicate name => 2 ≤ (rows.map (·.1)).count name
  | .unknownParent name parent => IsParent rows name parent ∧ parent ∉ rows.map (·.1)
  | .cycle name => TransGen (IsParent rows) name name

/-- Of distinct names, the first one that has no lineage, and it has none because its parents lead
into a circle. -/
structure FirstEndless (rows : List TypeRow) (name : String) : Prop where
  distinct : (rows.map (·.1)).Nodup
  first : ∃ front parent back, rows = front ++ (name, parent) :: back ∧
    ∀ row ∈ front, ∃ chain, Lineage rows row.1 chain
  endless : Endless rows name

variable {rows : List TypeRow} {name parent : String} {fault : Fault}

/-! ## Repeated names -/

/-- A repeated name stands further in front as well. -/
theorem exists_of_firstRepeated? {names seen : List String}
    (repeated : firstRepeated? seen names = some name) :
    ∃ front back, names = front ++ name :: back ∧ (name ∈ front ∨ name ∈ seen) := by
  induction names generalizing seen with
  | nil => cases repeated
  | cons first rest ih =>
    rw [firstRepeated?] at repeated
    split at repeated
    next again =>
      obtain rfl := Option.some.inj repeated
      exact ⟨[], rest, rfl, .inr again⟩
    next fresh =>
      obtain ⟨front, back, rfl, before⟩ := ih repeated
      refine ⟨first :: front, back, rfl, ?_⟩
      rcases before with between | before
      · exact .inl (List.mem_cons_of_mem first between)
      rcases List.mem_cons.1 before with rfl | before
      · exact .inl List.mem_cons_self
      · exact .inr before

theorem two_le_count_of_firstRepeated? {names : List String}
    (repeated : firstRepeated? [] names = some name) : 2 ≤ names.count name := by
  obtain ⟨front, back, rfl, before⟩ := exists_of_firstRepeated? repeated
  have earlier := List.count_pos_iff.2 (before.resolve_right List.not_mem_nil)
  rw [List.count_append, List.count_cons_self]
  omega

/-! ## Faults of ascents -/

/-- Rows are no hierarchy if a name is repeated, or because of the first climb that fails. -/
theorem ofRows_eq_error_iff : ofRows rows = .error fault ↔
    (∃ name, firstRepeated? [] (rows.map (·.1)) = some name ∧ fault = .duplicate name) ∨
      (rows.map (·.1)).Nodup ∧ ∃ front row back, rows = front ++ row :: back ∧
        (∀ r ∈ front, ∃ chain, Lineage rows r.1 chain) ∧
        climb rows row.1 [row.1] row.1 = .error fault := by
  rw [ofRows_eq_climbAll, climbAll]
  cases repeated : firstRepeated? [] (rows.map (·.1)) with
  | some name =>
    constructor
    · intro failed
      exact .inl ⟨name, rfl, (Except.error.inj failed).symm⟩
    · rintro (⟨other, same, rfl⟩ | ⟨distinct, -⟩)
      · rw [Option.some.inj same]
      · rw [firstRepeated?_eq_none_of_nodup distinct fun _ _ => List.not_mem_nil] at repeated
        cases repeated
  | none =>
    have distinct := (firstRepeated?_eq_none repeated).1
    have first : (mk <$> rows.mapM (climbFrom rows) = .error fault) ↔
        ∃ front row back, rows = front ++ row :: back ∧
          (∀ r ∈ front, ∃ entry, climbFrom rows r = .ok entry) ∧ climbFrom rows row = .error fault :=
      map_eq_error_iff.trans mapM_eq_error_iff
    refine first.trans ⟨?_, ?_⟩
    · rintro ⟨front, row, back, rfl, climbs, failed⟩
      refine .inr ⟨distinct, front, row, back, rfl, fun r hr => ?_, map_eq_error_iff.1 failed⟩
      obtain ⟨entry, climbed⟩ := climbs r hr
      have among := List.mem_append_left (row :: back) hr
      exact ⟨entry.2, ((climbFrom_eq_ok_iff distinct among).1 climbed).2⟩
    · rintro (⟨other, same, -⟩ | ⟨-, front, row, back, rfl, lineages, failed⟩)
      · cases same
      · refine ⟨front, row, back, rfl, fun r hr => ?_, map_eq_error_iff.2 failed⟩
        obtain ⟨chain, lineage⟩ := lineages r hr
        have among := List.mem_append_left (row :: back) hr
        exact ⟨(r.1, chain), (climbFrom_eq_ok_iff distinct among).2 ⟨rfl, lineage⟩⟩

theorem ofRows_eq_duplicate_iff :
    ofRows rows = .error (.duplicate name) ↔
      firstRepeated? [] (rows.map (·.1)) = some name := by
  rw [ofRows_eq_error_iff]
  constructor
  · rintro (⟨other, repeated, same⟩ | ⟨-, front, row, back, -, -, failed⟩)
    · rwa [Fault.duplicate.inj same]
    · cases obstructs_of_climb_self failed
  · exact fun repeated => .inl ⟨name, repeated, rfl⟩

theorem blames_of_unknownParent (failed : ofRows rows = .error (.unknownParent name parent)) :
    IsParent rows name parent ∧ parent ∉ rows.map (·.1) := by
  rcases ofRows_eq_error_iff.1 failed with ⟨other, -, same⟩ | ⟨-, front, row, back, -, -, climbed⟩
  · cases same
  · cases obstructs_of_climb_self climbed with
    | unknownParent above up undeclared => exact ⟨up, undeclared⟩

theorem ofRows_eq_cycle_iff : ofRows rows = .error (.cycle name) ↔ FirstEndless rows name := by
  rw [ofRows_eq_error_iff]
  constructor
  · rintro (⟨other, -, same⟩ | ⟨distinct, front, row, back, rfl, lineages, climbed⟩)
    · cases same
    · cases obstructs_of_climb_self climbed with
      | cycle endless => exact ⟨distinct, ⟨front, row.2, back, rfl, lineages⟩, endless⟩
  · rintro ⟨distinct, ⟨front, parent, back, split, lineages⟩, endless⟩
    refine .inr ⟨distinct, front, (name, parent), back, split, lineages, ?_⟩
    exact (climb_eq_cycle_iff distinct endless.declared).2 ⟨rfl, endless⟩

/-! ## Blame -/

/-- **What faults blame.** A repeated name is declared at least twice, and an unknown parent is
given by a row and not declared. A cycle names the first of distinct names whose parents lead into a
circle, if those in front of it have lineages. So all faults are to blame on what they name exactly
if that name stands on the circle itself. -/
theorem faults_blame_rows (rows : List TypeRow) :
    (∀ name, ofRows rows = .error (.duplicate name) → 2 ≤ (rows.map (·.1)).count name) ∧
      (∀ name parent, ofRows rows = .error (.unknownParent name parent) →
        IsParent rows name parent ∧ parent ∉ rows.map (·.1)) ∧
      (∀ name, ofRows rows = .error (.cycle name) ↔ FirstEndless rows name) ∧
      ((∀ fault, ofRows rows = .error fault → fault.Blames rows) ↔
        ∀ name, FirstEndless rows name → TransGen (IsParent rows) name name) := by
  have twice : ∀ name, ofRows rows = .error (.duplicate name) →
      2 ≤ (rows.map (·.1)).count name := fun name failed =>
    two_le_count_of_firstRepeated? (ofRows_eq_duplicate_iff.1 failed)
  refine ⟨twice, fun name parent => blames_of_unknownParent, fun name => ofRows_eq_cycle_iff, ?_⟩
  constructor
  · exact fun blames name first => blames (.cycle name) (ofRows_eq_cycle_iff.2 first)
  · intro loops fault failed
    cases fault with
    | duplicate name => exact twice name failed
    | unknownParent name parent => exact blames_of_unknownParent failed
    | cycle name => exact loops name (ofRows_eq_cycle_iff.1 failed)

/-- Each fault on rows of two names; both stand on the circle. -/
theorem faults_blame_two_names :
    (ofRows [("A", none), ("A", none)] = .error (.duplicate "A") ∧ 2 ≤ ["A", "A"].count "A") ∧
      (ofRows [("A", some "B"), ("B", some "C")] = .error (.unknownParent "B" "C") ∧
        IsParent [("A", some "B"), ("B", some "C")] "B" "C" ∧ "C" ∉ ["A", "B"]) ∧
      ofRows [("A", some "B"), ("B", some "A")] = .error (.cycle "A") ∧
      FirstEndless [("A", some "B"), ("B", some "A")] "A" ∧
      ∀ fault, ofRows [("A", some "B"), ("B", some "A")] = .error fault →
        fault.Blames [("A", some "B"), ("B", some "A")] := by
  have repeated : ofRows [("A", none), ("A", none)] = .error (.duplicate "A") := rfl
  have unknown : ofRows [("A", some "B"), ("B", some "C")] = .error (.unknownParent "B" "C") := by
    rw [ofRows_eq (by decide)]
    rfl
  have circle : ofRows [("A", some "B"), ("B", some "A")] = .error (.cycle "A") := by
    rw [ofRows_eq (by decide)]
    rfl
  obtain ⟨twice, -, -, -⟩ := faults_blame_rows [("A", none), ("A", none)]
  obtain ⟨-, undeclared, -, -⟩ := faults_blame_rows [("A", some "B"), ("B", some "C")]
  obtain ⟨-, -, first, blames⟩ := faults_blame_rows [("A", some "B"), ("B", some "A")]
  refine ⟨⟨repeated, twice _ repeated⟩, ⟨unknown, undeclared _ _ unknown⟩, circle,
    (first _).1 circle, blames.2 fun name endless => ?_⟩
  -- the fault is one of `A`, from which two parents lead back
  obtain rfl := Fault.cycle.inj (Except.error.inj (circle.symm.trans ((first name).2 endless)))
  have up : IsParent [("A", some "B"), ("B", some "A")] "A" "B" := List.mem_cons_self
  have back : IsParent [("A", some "B"), ("B", some "A")] "B" "A" := by simp [IsParent]
  exact .tail (.single up) back

/-- The circle is one of `B` alone, and `A` is blamed for it. -/
theorem cycle_blames_name_below_it :
    let rows := [("A", some "B"), ("B", some "B")]
    ofRows rows = .error (.cycle "A") ∧
      (Fault.cycle "A").message = "Type hierarchy cycle through 'A'" ∧
      TransGen (IsParent rows) "B" "B" ∧ ¬TransGen (IsParent rows) "A" "A" ∧
      ¬∀ fault, ofRows rows = .error fault → fault.Blames rows := by
  intro rows
  have failed : ofRows rows = .error (.cycle "A") := by
    rw [ofRows_eq (by decide)]
    rfl
  have beside : ¬TransGen (IsParent rows) "A" "A" := by
    intro loops
    -- nothing has `A` for its parent
    obtain ⟨name, -, up⟩ := TransGen.tail'_iff.1 loops
    simp [rows, IsParent] at up
  have loops : TransGen (IsParent rows) "B" "B" := .single (by simp [rows, IsParent])
  exact ⟨failed, by decide, loops, beside, fun blames => beside (blames _ failed)⟩

end SignatureAudit.Hierarchy
