import SignatureAudit.Proofs.Effect
import SignatureAudit.Proofs.Hierarchy.Ascent

/-!
# Which rows are a hierarchy

Rows make a hierarchy exactly if they are *consistent* (`exists_ofRows_iff`): their names differ,
their parents are declared, and no name is above itself. The hierarchy then has the declared names,
and the ancestors of a declared name are its lineage (`lineage_ancestors`). These are what its
parents lead to (`mem_ancestors_iff`), so a named type is a subtype of another if its parents lead
there (`isNamedSubtype_iff`).

All of this is read off `climbAll`, which climbs from each name with a memory and is what building a
hierarchy comes to (`ofRows_eq_climbAll`).
-/

namespace SignatureAudit.Hierarchy

/-- What makes rows a hierarchy. -/
structure Consistent (rows : List TypeRow) : Prop where
  distinct : (rows.map (·.1)).Nodup
  declared : ∀ {name parent : String}, IsParent rows name parent → parent ∈ rows.map (·.1)
  acyclic : ∀ name, ¬Relation.TransGen (IsParent rows) name name

variable {rows : List TypeRow} {name : String} {fault : Fault}

theorem firstRepeated?_eq_none_of_nodup {names seen : List String} (distinct : names.Nodup)
    (unseen : ∀ name ∈ names, name ∉ seen) : firstRepeated? seen names = none := by
  induction names generalizing seen with
  | nil => rfl
  | cons name rest ih =>
    obtain ⟨fresh, different⟩ := List.nodup_cons.1 distinct
    obtain ⟨first, others⟩ := List.forall_mem_cons.1 unseen
    rw [firstRepeated?, if_neg first]
    refine ih different fun other hother => ?_
    rw [List.mem_cons, not_or]
    exact ⟨fun same => fresh (same ▸ hother), others other hother⟩

/-! ## Climbing from every name -/

/-- A name with its lineage. -/
def climbFrom (rows : List TypeRow) (row : TypeRow) : Except Fault (String × List String) :=
  (climb rows row.1 [row.1] row.1).map (row.1, ·)

/-- The hierarchy of rows, each ascent remembering the names that it has passed. -/
def climbAll (rows : List TypeRow) : Except Fault Hierarchy :=
  match firstRepeated? [] (rows.map (·.1)) with
  | some name => .error (.duplicate name)
  | none => mk <$> rows.mapM (climbFrom rows)

theorem climbFrom_eq_ok_iff (distinct : (rows.map (·.1)).Nodup) {row : TypeRow} (hrow : row ∈ rows)
    {entry : String × List String} :
    climbFrom rows row = .ok entry ↔ entry.1 = row.1 ∧ Lineage rows row.1 entry.2 := by
  rw [← climb_eq_ok_iff distinct (List.mem_map_of_mem hrow), climbFrom]
  cases climb rows row.1 [row.1] row.1 with
  | error fault => exact ⟨(nomatch ·), fun h => nomatch h.2⟩
  | ok chain =>
    constructor
    · intro same
      obtain rfl := Except.ok.inj same
      exact ⟨rfl, rfl⟩
    · rintro ⟨same, listed⟩
      rw [Except.ok.inj listed, ← same]
      rfl

/-- Building a hierarchy comes to climbing from each name with a memory. -/
theorem ofRows_eq_climbAll (rows : List TypeRow) : ofRows rows = climbAll rows := by
  cases repeated : firstRepeated? [] (rows.map (·.1)) with
  | some name => simp only [ofRows, climbAll, repeated]
  | none =>
    have distinct := (firstRepeated?_eq_none repeated).1
    have climbs : chainsOf (rows.lookup ·) rows = rows.mapM (climbFrom rows) := by
      refine mapM_congr_of_mem fun row hrow => ?_
      rw [ascend_length_eq_climb distinct (List.mem_map_of_mem hrow), climbFrom]
      cases climb rows row.1 [row.1] row.1 <;> rfl
    simp only [ofRows_eq repeated, climbAll, repeated, climbs]

/-- Rows with a hierarchy have distinct names, and its chains are the climbs from these. -/
theorem ofRows_eq_ok_iff {h : Hierarchy} : ofRows rows = .ok h ↔
    (rows.map (·.1)).Nodup ∧ rows.mapM (climbFrom rows) = .ok h.chains := by
  rw [ofRows_eq_climbAll, climbAll]
  constructor
  · intro built
    split at built
    · cases built
    next unrepeated =>
      refine ⟨(firstRepeated?_eq_none unrepeated).1, ?_⟩
      cases chains : rows.mapM (climbFrom rows) with
      | error fault =>
        rw [chains] at built
        cases built
      | ok list =>
        rw [chains] at built
        rw [← Except.ok.inj built]
  · rintro ⟨distinct, chains⟩
    rw [firstRepeated?_eq_none_of_nodup distinct fun _ _ => List.not_mem_nil, chains]
    rfl

/-- Rows of distinct names are a hierarchy if every name has a lineage. -/
theorem exists_ofRows_iff_lineages : (∃ h, ofRows rows = .ok h) ↔
    (rows.map (·.1)).Nodup ∧ ∀ name ∈ rows.map (·.1), ∃ chain, Lineage rows name chain := by
  constructor
  · rintro ⟨h, built⟩
    obtain ⟨distinct, chains⟩ := ofRows_eq_ok_iff.1 built
    refine ⟨distinct, fun name hname => ?_⟩
    obtain ⟨row, hrow, rfl⟩ := List.mem_map.1 hname
    obtain ⟨entry, climbed⟩ := exists_mapM_eq_ok_iff.1 ⟨_, chains⟩ row hrow
    exact ⟨entry.2, ((climbFrom_eq_ok_iff distinct hrow).1 climbed).2⟩
  · rintro ⟨distinct, lineages⟩
    have all : ∃ chains, rows.mapM (climbFrom rows) = .ok chains := by
      refine exists_mapM_eq_ok_iff.2 fun row hrow => ?_
      obtain ⟨chain, lineage⟩ := lineages row.1 (List.mem_map_of_mem hrow)
      exact ⟨(row.1, chain), (climbFrom_eq_ok_iff distinct hrow).2 ⟨rfl, lineage⟩⟩
    obtain ⟨chains, all⟩ := all
    exact ⟨⟨chains⟩, ofRows_eq_ok_iff.2 ⟨distinct, all⟩⟩

/-! ## Consistent rows -/

theorem Consistent.not_obstructs (consistent : Consistent rows) : ¬Obstructs rows name fault := by
  rintro (⟨-, up, undeclared⟩ | ⟨turn, -, loops⟩)
  · exact undeclared (consistent.declared up)
  · exact consistent.acyclic turn loops

/-- In consistent rows nothing keeps an ascent from a root. -/
theorem Consistent.exists_lineage (consistent : Consistent rows) (hname : name ∈ rows.map (·.1)) :
    ∃ chain, Lineage rows name chain := by
  cases climbed : climb rows name [name] name with
  | error fault => exact absurd (obstructs_of_climb_self climbed) consistent.not_obstructs
  | ok chain => exact ⟨chain, lineage_of_climb hname climbed⟩

/-- **Which rows are a hierarchy**: the consistent ones. -/
theorem exists_ofRows_iff : (∃ h, ofRows rows = .ok h) ↔ Consistent rows := by
  rw [exists_ofRows_iff_lineages]
  constructor
  · rintro ⟨distinct, lineages⟩
    refine ⟨distinct, fun up => ?_, fun name loops => ?_⟩
    · obtain ⟨chain, lineage⟩ := lineages _ up.declared
      exact lineage.subset ((lineage.mem_iff distinct).2 (.single up))
    · have endless := endless_of_loop loops
      obtain ⟨chain, lineage⟩ := lineages name endless.declared
      exact lineage.not_endless distinct endless
  · intro consistent
    exact ⟨consistent.distinct, fun name hname => consistent.exists_lineage hname⟩

section

variable {h : Hierarchy}

theorem keys_of_ofRows (built : ofRows rows = .ok h) : h.chains.map (·.1) = rows.map (·.1) := by
  refine map_of_mapM_eq_ok (ofRows_eq_ok_iff.1 built).2 fun {row entry} climbed => ?_
  rw [climbFrom] at climbed
  cases ran : climb rows row.1 [row.1] row.1 with
  | error fault =>
    rw [ran] at climbed
    cases climbed
  | ok chain =>
    rw [ran] at climbed
    rw [← Except.ok.inj climbed]

/-- The hierarchy has the declared names. -/
theorem contains_iff (built : ofRows rows = .ok h) :
    h.contains name = true ↔ name ∈ rows.map (·.1) := by
  rw [contains, isSome_lookup_iff, keys_of_ofRows built]

/-! ## Ancestors -/

/-- The ancestors of a declared name are its lineage. -/
theorem lineage_ancestors (built : ofRows rows = .ok h) (hname : name ∈ rows.map (·.1)) :
    Lineage rows name (h.ancestors name) := by
  obtain ⟨distinct, chains⟩ := ofRows_eq_ok_iff.1 built
  rw [← contains_iff built, contains] at hname
  obtain ⟨chain, found⟩ := Option.isSome_iff_exists.1 hname
  obtain ⟨row, hrow, climbed⟩ := (mem_of_mapM_eq_ok chains).1 (mem_of_lookup found)
  obtain ⟨same, lineage⟩ := (climbFrom_eq_ok_iff distinct hrow).1 climbed
  obtain rfl : name = row.1 := same
  rwa [ancestors, found, Option.getD_some]

theorem ancestors_eq_nil (built : ofRows rows = .ok h) (undeclared : name ∉ rows.map (·.1)) :
    h.ancestors name = [] := by
  rw [← contains_iff built, contains, Option.not_isSome_iff_eq_none] at undeclared
  rw [ancestors, undeclared, Option.getD_none]

/-- The ancestors of a declared name are what its parents lead to, the name itself included. -/
theorem mem_ancestors_iff (built : ofRows rows = .ok h) {other : String} :
    other ∈ h.ancestors name ↔
      name ∈ rows.map (·.1) ∧ Relation.ReflTransGen (IsParent rows) name other := by
  by_cases hname : name ∈ rows.map (·.1)
  · have distinct := (ofRows_eq_ok_iff.1 built).1
    rw [(lineage_ancestors built hname).mem_iff distinct]
    exact (and_iff_right hname).symm
  · simp [ancestors_eq_nil built hname, hname]

/-- All ancestors are declared. -/
theorem ancestors_subset (built : ofRows rows = .ok h) (name : String) :
    h.ancestors name ⊆ rows.map (·.1) := by
  intro other among
  obtain ⟨hname, -⟩ := (mem_ancestors_iff built).1 among
  exact (lineage_ancestors built hname).subset among

/-- A named type is a subtype of what its parents lead to. -/
theorem isNamedSubtype_iff (built : ofRows rows = .ok h) {sub sup : String} :
    h.isNamedSubtype sub sup = true ↔ Relation.ReflTransGen (IsParent rows) sub sup := by
  rw [isNamedSubtype, Bool.or_eq_true, beq_iff_eq, List.any_beq', List.contains_iff_mem]
  constructor
  · rintro (rfl | among)
    · exact .refl
    · exact ((mem_ancestors_iff built).1 among).2
  · intro above
    -- an undeclared name has no parent, so it leads to nothing but itself
    rcases above.cases_head with rfl | ⟨parent, up, -⟩
    · exact .inl rfl
    · exact .inr ((mem_ancestors_iff built).2 ⟨up.declared, above⟩)

theorem isNamedSubtype_trans (built : ofRows rows = .ok h) {low middle high : String}
    (first : h.isNamedSubtype low middle = true) (second : h.isNamedSubtype middle high = true) :
    h.isNamedSubtype low high = true := by
  rw [isNamedSubtype_iff built] at first second ⊢
  exact first.trans second

end

end SignatureAudit.Hierarchy
