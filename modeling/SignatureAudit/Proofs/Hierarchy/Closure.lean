import SignatureAudit.Proofs.Hierarchy.Fit
import SignatureAudit.Proofs.Hierarchy.Rows

/-!
# Hierarchies as closures

The hierarchy of some rows is the closure of their parents (`ParentClosure`): the ancestors of a
name are its lineage, and a named type is a subtype of what its parents lead to. As no name is above
itself, names that are subtypes of one another are the same; as a name has one parent at most, the
ancestors of a name stand in one line.

Main result: `rows_make_parent_closure`, with which rows have a hierarchy at all and why looking for
it comes to an end.
-/

namespace SignatureAudit.Hierarchy

open Relation (ReflTransGen)

/-- The hierarchy holds what the parents of the rows lead to. -/
structure ParentClosure (rows : List TypeRow) (h : Hierarchy) : Prop where
  /-- Ancestors run from the name over the parent of each to a root. -/
  lineage : ∀ name chain,
    Lineage rows name chain ↔ name ∈ rows.map (·.1) ∧ h.ancestors name = chain
  undeclared : ∀ name, name ∉ rows.map (·.1) → h.ancestors name = []
  nodup : ∀ name, (h.ancestors name).Nodup
  reaches : ∀ sub sup, h.isNamedSubtype sub sup = true ↔ ReflTransGen (IsParent rows) sub sup
  antisymm : ∀ a b, h.isNamedSubtype a b = true → h.isNamedSubtype b a = true → a = b
  comparable : ∀ name, ∀ a ∈ h.ancestors name, ∀ b ∈ h.ancestors name,
    h.isNamedSubtype a b = true ∨ h.isNamedSubtype b a = true

variable {rows : List TypeRow} {h : Hierarchy} {name a b : String}

theorem lineage_iff (built : ofRows rows = .ok h) (name : String) (chain : List String) :
    Lineage rows name chain ↔ name ∈ rows.map (·.1) ∧ h.ancestors name = chain := by
  constructor
  · intro lineage
    have distinct := (ofRows_eq_ok_iff.1 built).1
    exact ⟨lineage.declared, (lineage_ancestors built lineage.declared).unique distinct lineage⟩
  · rintro ⟨hname, rfl⟩
    exact lineage_ancestors built hname

theorem nodup_ancestors (built : ofRows rows = .ok h) (name : String) :
    (h.ancestors name).Nodup := by
  by_cases hname : name ∈ rows.map (·.1)
  · exact (lineage_ancestors built hname).nodup (ofRows_eq_ok_iff.1 built).1
  · rw [ancestors_eq_nil built hname]
    exact List.nodup_nil

/-- No two names are above one another. -/
theorem isNamedSubtype_antisymm (built : ofRows rows = .ok h)
    (below : h.isNamedSubtype a b = true) (above : h.isNamedSubtype b a = true) : a = b := by
  rw [isNamedSubtype_iff built] at below above
  rcases Relation.reflTransGen_iff_eq_or_transGen.1 below with same | strictly
  · exact same.symm
  · have acyclic := (exists_ofRows_iff.1 ⟨h, built⟩).acyclic
    exact absurd (strictly.trans_left above) (acyclic a)

/-- Of two ancestors of a name, the one that is met first leads to the other. -/
theorem isNamedSubtype_or_of_ancestors (built : ofRows rows = .ok h) (ha : a ∈ h.ancestors name)
    (hb : b ∈ h.ancestors name) :
    h.isNamedSubtype a b = true ∨ h.isNamedSubtype b a = true := by
  have distinct := (ofRows_eq_ok_iff.1 built).1
  have single : Relator.RightUnique (IsParent rows) := fun _ _ _ up up' => up.unique distinct up'
  simp only [isNamedSubtype_iff built]
  exact ReflTransGen.total_of_right_unique single ((mem_ancestors_iff built).1 ha).2
    ((mem_ancestors_iff built).1 hb).2

/-- **Hierarchies are closures of parents.** Building a hierarchy comes to climbing from each name
with a memory, which ends because no name is passed twice. There is a hierarchy exactly if the rows
are consistent, and then it is the closure of their parents. -/
theorem rows_make_parent_closure (rows : List TypeRow) :
    ofRows rows = climbAll rows ∧ ((∃ h, ofRows rows = .ok h) ↔ Consistent rows) ∧
      ∀ h, ofRows rows = .ok h → ParentClosure rows h := by
  refine ⟨ofRows_eq_climbAll rows, exists_ofRows_iff, fun h built => ?_⟩
  exact {
    lineage := lineage_iff built
    undeclared := fun name => ancestors_eq_nil built
    nodup := nodup_ancestors built
    reaches := fun sub sup => isNamedSubtype_iff built
    antisymm := fun a b => isNamedSubtype_antisymm built
    comparable := fun name a ha b hb => isNamedSubtype_or_of_ancestors built ha hb }

/-- Executables are targets, and nothing else. -/
theorem executables_lead_to_targets :
    let rows := [("Executable", some "Target"), ("Target", none), ("String", none)]
    ofRows rows = .ok targets ∧ Consistent rows ∧
      Lineage rows "Executable" ["Executable", "Target"] ∧
      ReflTransGen (IsParent rows) "Executable" "Target" ∧
      ¬ReflTransGen (IsParent rows) "Target" "Executable" := by
  intro rows
  obtain ⟨-, consistent, closes⟩ := rows_make_parent_closure rows
  have closure := closes targets ofRows_targets
  refine ⟨ofRows_targets, consistent.1 ⟨targets, ofRows_targets⟩, ?_, ?_, ?_⟩
  · exact (closure.lineage _ _).2 ⟨by decide, by decide⟩
  · exact (closure.reaches _ _).1 (by decide)
  · rw [← closure.reaches]
    decide

end SignatureAudit.Hierarchy
