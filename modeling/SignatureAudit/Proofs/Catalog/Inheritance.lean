import SignatureAudit.Proofs.Call.Slot
import SignatureAudit.Proofs.Catalog.Load

/-!
# Inherited methods

A type has the methods that it declares, and those of its parent whose names it does not declare
itself (`methodsOf_eq`). So for every name that a type or one of its ancestors declares, the
declaration of the nearest of them can be called on its values (`Nearest`), and each name stands in
the list once. A subtype has a method of every name that its supertypes have one of.

The list is computed in one walk along all ancestors, which passes over the names that it has seen;
it keeps the first method of each name (`methodsOf_eq_distinctOn`). The law of the parent is read
off the ancestor table, in which the ancestors of a name are the name and the ancestors of its
parent (`ancestors_eq_cons`); what is said about the nearest declaration follows by induction over
the lineage of the type.
-/

namespace SignatureAudit

/-! ## The ancestor table -/

namespace Hierarchy

variable {rows : List TypeRow} {h : Hierarchy}

/-- The ancestors of a name are the name itself and the ancestors of its parent. -/
theorem ancestors_eq_cons (built : ofRows rows = .ok h) {name : String} {parent? : Option String}
    (row : (name, parent?) ∈ rows) :
    h.ancestors name = name :: parent?.elim [] h.ancestors := by
  have distinct := (ofRows_eq_ok_iff.1 built).1
  have lineage := lineage_ancestors built (List.mem_map_of_mem row)
  cases parent? with
  | none => exact lineage.unique distinct (.root row)
  | some parent =>
    have declared : parent ∈ rows.map (·.1) := (exists_ofRows_iff.1 ⟨h, built⟩).declared row
    exact lineage.unique distinct (.child row (lineage_ancestors built declared))

/-- What is above a name is above its subtypes. -/
theorem ancestors_subset_of_isNamedSubtype (built : ofRows rows = .ok h) {sub sup : String}
    (below : h.isNamedSubtype sub sup = true) : h.ancestors sup ⊆ h.ancestors sub := by
  intro above among
  rw [isNamedSubtype_iff built] at below
  rw [mem_ancestors_iff built] at among ⊢
  obtain ⟨declared, higher⟩ := among
  have hsub : sub ∈ rows.map (·.1) := by
    rcases below.cases_head with rfl | ⟨parent, up, -⟩
    · exact declared
    · exact up.declared
  exact ⟨hsub, below.trans higher⟩

end Hierarchy

namespace Catalog

open Hierarchy (Lineage)

/-! ## Types and rows -/

section

variable {d : Document} {c : Catalog} {t : TypeInfo}

/-- The types of a catalog, with their parents, are the rows of its document. -/
theorem mem_rows_iff (listed : d.types.mapM (·.info d.paramSets) = .ok c.types) {name : String}
    {parent? : Option String} :
    (name, parent?) ∈ d.rows ↔ ∃ t ∈ c.types, t.name = name ∧ t.parent = parent? := by
  have same : c.types.map (fun t => (t.name, t.parent)) = d.rows :=
    map_of_mapM_eq_ok listed fun {entry info} read => by
      obtain ⟨named, parented, -⟩ := info_eq_ok_iff.1 read
      rw [named, parented]
  rw [← same, List.mem_map]
  simp only [Prod.mk.injEq]

theorem exists_ofDocument_of_load {text : String} (loaded : load text = .ok c) :
    ∃ d, ofDocument d = .ok c := by
  unfold load at loaded
  cases decoded : Document.read? text with
  | none =>
    rw [decoded] at loaded
    cases loaded
  | some d =>
    rw [decoded] at loaded
    exact ⟨d, loaded⟩

end

/-! ## The law of the parent -/

/-- The methods of the parent of a type; a root inherits nothing. -/
def inherited (c : Catalog) (t : TypeInfo) : List MethodRef := t.parent.elim [] c.methodsOf

/-- A method is the declaration of its name that is nearest to a type: an ancestor of the type
declares it, and no ancestor in front of that one declares the name. -/
structure Nearest (c : Catalog) (type : String) (m : MethodRef) : Prop where
  known : c.type? m.declaredOn.name = some m.declaredOn
  declares : m.declaredOn.method? m.callable.name = some m.callable
  first : ∃ nearer further, c.hierarchy.ancestors type = nearer ++ m.declaredOn.name :: further ∧
    ∀ above ∈ nearer, ∀ info, c.type? above = some info → info.method? m.callable.name = none

theorem names_methodRefs (t : TypeInfo) :
    t.methodRefs.map (·.callable.name) = t.methods.map (·.name) := by
  unfold TypeInfo.methodRefs
  rw [List.map_map]
  rfl

/-- No name comes twice. -/
theorem nodup_names_methodsOf (c : Catalog) (type : String) :
    ((c.methodsOf type).map (·.callable.name)).Nodup :=
  methodsOf_eq_distinctOn c type ▸ nodup_map_distinctOn _

/-- The names are those that the ancestors declare, the type itself being one of them. -/
theorem mem_names_methodsOf_iff {c : Catalog} {type name : String} :
    name ∈ (c.methodsOf type).map (·.callable.name) ↔
      ∃ above ∈ c.hierarchy.ancestors type, ∃ info, c.type? above = some info ∧
        name ∈ info.methods.map (·.name) := by
  rw [methodsOf_eq_distinctOn, map_mem_distinctOn, List.map_flatMap, List.mem_flatMap]
  simp only [names_methodRefs]
  constructor
  · rintro ⟨info, hinfo, declared⟩
    obtain ⟨above, among, found⟩ := List.mem_filterMap.1 hinfo
    exact ⟨above, among, info, found, declared⟩
  · rintro ⟨above, among, info, found, declared⟩
    exact ⟨info, List.mem_filterMap.2 ⟨above, among, found⟩, declared⟩

section

variable {d : Document} {c : Catalog} {t : TypeInfo} {m : MethodRef}

/-- A type has its own methods and those of its parent whose names it does not declare. -/
theorem methodsOf_eq (loaded : ofDocument d = .ok c) (ht : t ∈ c.types) :
    c.methodsOf t.name = t.methodRefs ++
      (c.inherited t).filter (·.callable.name ∉ t.methods.map (·.name)) := by
  have formed := wellFormed_of_ofDocument loaded
  obtain ⟨built, -, listed, -⟩ := ofDocument_eq_ok_iff.1 loaded
  have row : (t.name, t.parent) ∈ d.rows := (mem_rows_iff listed).2 ⟨t, ht, rfl, rfl⟩
  have found : c.type? t.name = some t := formed.type?_iff.2 ⟨ht, rfl⟩
  have own : (t.methodRefs.map (·.callable.name)).Nodup := by
    rw [names_methodRefs]
    exact (formed.methods t ht).distinct
  have above : distinctOn (·.callable.name)
      (((t.parent.elim [] c.hierarchy.ancestors).filterMap c.type?).flatMap TypeInfo.methodRefs)
        = c.inherited t := by
    unfold inherited
    cases t.parent with
    | none => rfl
    | some parent => exact (methodsOf_eq_distinctOn c parent).symm
  rw [methodsOf_eq_distinctOn, Hierarchy.ancestors_eq_cons built row,
    List.filterMap_cons_some found, List.flatMap_cons, distinctOn_append, distinctOn_of_nodup own,
    above, names_methodRefs]

theorem method?_eq_none_iff {name : String} :
    t.method? name = none ↔ name ∉ t.methods.map (·.name) := by
  simp [TypeInfo.method?]

/-- What can be called on the values of a type are nearest declarations. -/
theorem nearest_of_mem_methodsOf (loaded : ofDocument d = .ok c) {type : String}
    {chain : List String} (lineage : Lineage d.rows type chain) (hm : m ∈ c.methodsOf type) :
    c.Nearest type m := by
  have formed := wellFormed_of_ofDocument loaded
  obtain ⟨built, -, listed, -⟩ := ofDocument_eq_ok_iff.1 loaded
  have own {t : TypeInfo} (ht : t ∈ c.types) (hm : m ∈ t.methodRefs) : c.Nearest t.name m := by
    have row : (t.name, t.parent) ∈ d.rows := (mem_rows_iff listed).2 ⟨t, ht, rfl, rfl⟩
    obtain ⟨method, among, rfl⟩ := List.mem_map.1 hm
    have distinct := (formed.methods t ht).distinct
    refine ⟨formed.type?_iff.2 ⟨ht, rfl⟩, find?_eq_some_of_nodup distinct among, ?_⟩
    exact ⟨[], _, Hierarchy.ancestors_eq_cons built row, by simp⟩
  induction lineage with
  | root row =>
    obtain ⟨t, ht, rfl, root⟩ := (mem_rows_iff listed).1 row
    rw [methodsOf_eq loaded ht, inherited, root] at hm
    simp only [Option.elim_none, List.filter_nil, List.append_nil] at hm
    exact own ht hm
  | @child name parent above up higher ih =>
    obtain ⟨t, ht, rfl, parented⟩ := (mem_rows_iff listed).1 up
    rw [methodsOf_eq loaded ht, List.mem_append] at hm
    rcases hm with hm | hm
    · exact own ht hm
    · -- the type is one more ancestor in front, and it does not declare the name
      obtain ⟨hm, hidden⟩ := List.mem_filter.1 hm
      rw [inherited, parented] at hm
      obtain ⟨known, declares, nearer, further, ancestors, first⟩ := ih hm
      refine ⟨known, declares, t.name :: nearer, further, ?_, ?_⟩
      · rw [Hierarchy.ancestors_eq_cons built up]
        show t.name :: c.hierarchy.ancestors parent = _
        rw [ancestors]
        rfl
      · intro other hother info found
        rcases List.mem_cons.1 hother with rfl | hother
        · obtain ⟨hinfo, named⟩ := formed.type?_iff.1 found
          have itself : c.type? t.name = some t := formed.type?_iff.2 ⟨ht, rfl⟩
          obtain rfl : t = info := Option.some.inj (itself.symm.trans found)
          exact method?_eq_none_iff.2 (of_decide_eq_true hidden)
        · exact first other hother info found

/-- A subtype has a method of every name that a supertype has one of. -/
theorem names_methodsOf_subset (loaded : ofDocument d = .ok c) {sub sup : String}
    (below : c.hierarchy.isNamedSubtype sub sup = true) :
    (c.methodsOf sup).map (·.callable.name) ⊆ (c.methodsOf sub).map (·.callable.name) := by
  obtain ⟨built, -⟩ := ofDocument_eq_ok_iff.1 loaded
  intro name hname
  rw [mem_names_methodsOf_iff] at hname ⊢
  obtain ⟨above, among, declared⟩ := hname
  exact ⟨above, Hierarchy.ancestors_subset_of_isNamedSubtype built below among, declared⟩

end

/-- **The nearest declaration wins.** A type of a loaded catalog has its own methods, and behind
them those of its parent whose names it does not declare. So no name comes twice; each name that the
type or an ancestor declares comes once, with the nearest declaration of that name; and subtypes
have a method of every name. -/
theorem methods_are_nearest {text : String} {c : Catalog} (loaded : load text = .ok c)
    {t : TypeInfo} (declared : t ∈ c.types) :
    c.methodsOf t.name = t.methodRefs ++
      (c.inherited t).filter (·.callable.name ∉ t.methods.map (·.name)) ∧
    ((c.methodsOf t.name).map (·.callable.name)).Nodup ∧
    (∀ above ∈ c.hierarchy.ancestors t.name, ∀ info, c.type? above = some info →
      ∀ method ∈ info.methods,
        ((c.methodsOf t.name).map (·.callable.name)).count method.name = 1 ∧
        ∃ m ∈ c.methodsOf t.name, m.callable.name = method.name ∧ c.Nearest t.name m) ∧
    (∀ m ∈ c.methodsOf t.name, c.Nearest t.name m) ∧
    ∀ sub, c.hierarchy.isNamedSubtype sub t.name = true →
      (c.methodsOf t.name).map (·.callable.name) ⊆ (c.methodsOf sub).map (·.callable.name) := by
  obtain ⟨d, made⟩ := exists_ofDocument_of_load loaded
  obtain ⟨built, -, listed, -⟩ := ofDocument_eq_ok_iff.1 made
  have hname : t.name ∈ d.rows.map (·.1) :=
    List.mem_map_of_mem ((mem_rows_iff listed).2 ⟨t, declared, rfl, rfl⟩)
  have nearest : ∀ m ∈ c.methodsOf t.name, c.Nearest t.name m := fun m hm =>
    nearest_of_mem_methodsOf made (Hierarchy.lineage_ancestors built hname) hm
  have once := nodup_names_methodsOf c t.name
  refine ⟨methodsOf_eq made declared, once, ?_, nearest, ?_⟩
  · intro above among info found method hmethod
    have visible : method.name ∈ (c.methodsOf t.name).map (·.callable.name) :=
      mem_names_methodsOf_iff.2 ⟨above, among, info, found, List.mem_map_of_mem hmethod⟩
    obtain ⟨m, hm, named⟩ := List.mem_map.1 visible
    exact ⟨List.count_eq_one_of_mem once visible, m, hm, named, nearest m hm⟩
  · intro sub below
    exact names_methodsOf_subset made below

/-- A method without parameters and without a value. -/
def plainMethod (type name : String) : Signature := ⟨name, some type, [], .none⟩

/-- A type with such methods is read from an entry that gives their names only. -/
theorem info_plain (type : String) (parent? : Option String) (names : List String) :
    TypeEntry.info [] ⟨type, parent?, names.map fun name => { name := name }⟩
      = .ok ⟨type, parent?, Callable.group (some type) (names.map (plainMethod type))⟩ := by
  have signature (name : String) : CallableEntry.signature { name := name } (some type) []
      = .ok (plainMethod type name) := by
    refine signature_eq_ok_iff.2 ⟨⟨?_, rfl, TypeExpr.read_none⟩, rfl, rfl⟩
    exact fun item hitem => absurd hitem List.not_mem_nil
  refine info_eq_ok_iff.2 ⟨rfl, rfl, callablesOf_eq_ok_iff.2 ⟨_, mapM_eq_ok_iff.2 ?_, rfl⟩⟩
  rw [List.map_map, List.map_map]
  exact List.map_congr_left fun name _ => signature name

/-- A text of two types: `B` declares the method `m` of its parent `A` again, and not `k`. -/
def shadowText : String :=
  "\x7b\"types\":[[\"A\",null,[[\"m\"],[\"k\"]]],[\"B\",\"A\",[[\"m\"]]]]\x7d"

/-- What the text is loaded to. -/
def shadowCatalog : Catalog where
  functions := []
  types := [
    ⟨"A", none,
      [⟨"m", some "A", [plainMethod "A" "m"]⟩, ⟨"k", some "A", [plainMethod "A" "k"]⟩]⟩,
    ⟨"B", some "A", [⟨"m", some "B", [plainMethod "B" "m"]⟩]⟩]
  hierarchy := ⟨[("A", ["A"]), ("B", ["B", "A"])]⟩

set_option maxRecDepth 3000 in
theorem load_shadowText : load shadowText = .ok shadowCatalog := by
  have decoded : Document.read? shadowText = some { types := [
      ⟨"A", none, ["m", "k"].map fun name => { name := name }⟩,
      ⟨"B", some "A", ["m"].map fun name => { name := name }⟩] } := by cbv
  have built : Hierarchy.ofRows [("A", none), ("B", some "A")] = .ok shadowCatalog.hierarchy := by
    rw [Hierarchy.ofRows_eq (by decide)]
    rfl
  rw [load, decoded]
  refine ofDocument_eq_ok_iff.2 ⟨built, rfl, mapM_eq_ok_iff.2 ?_, by decide⟩
  have first := info_plain "A" none ["m", "k"]
  have second := info_plain "B" (some "A") ["m"]
  exact List.cons_eq_cons.2 ⟨first, List.cons_eq_cons.2 ⟨second, rfl⟩⟩

/-- The type `B` has its own `m` and the `k` of its parent. -/
theorem shadowed_method_is_left_out :
    load shadowText = .ok shadowCatalog ∧ ∃ a b m k, shadowCatalog.types = [a, b] ∧
      a.methods = [m, k] ∧ m.name = "m" ∧ k.name = "k" ∧
      shadowCatalog.methodsOf "B" = b.methodRefs ++ [⟨a, k⟩] ∧
      b.methodRefs.map (·.callable.name) = ["m"] ∧
      ((shadowCatalog.methodsOf "B").map (·.callable.name)).count "m" = 1 := by
  refine ⟨load_shadowText, _, _, _, _, rfl, rfl, rfl, rfl, ?_⟩
  obtain ⟨law, -, visible, -, -⟩ := methods_are_nearest load_shadowText
    (List.mem_cons_of_mem _ List.mem_cons_self)
  have inherited := visible "A" (by decide) _ rfl _ List.mem_cons_self
  exact ⟨law.trans (by decide), rfl, inherited.1⟩

end Catalog

end SignatureAudit
