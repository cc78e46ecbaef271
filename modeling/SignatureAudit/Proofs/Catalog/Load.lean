import SignatureAudit.Catalog.Load
import SignatureAudit.Proofs.Hierarchy.Rows
import SignatureAudit.Proofs.TypeExpr.Reader
import Mathlib

/-!
# Which documents are catalogs

A document is *consistent* (`Document.Consistent`) if its types make a hierarchy, its entries can be
read, and these name no type that it does not declare. The consistent documents are the ones that
are loaded, and every catalog that is loaded is *well formed* (`Catalog.WellFormed`): callables with
one receiver differ in name and have overloads that carry this name and receiver, and the types that
the hierarchy knows are the types of the catalog. This is `load_accepts_consistent`.

Loading is a row of checks, each of which stops at its first fault. Each has its own lemma that says
when it finds none (`signature_eq_ok_iff`, `callablesOf_eq_ok_iff`, `firstUndeclared?_eq_none_iff`),
and `ofDocument_eq_ok_iff` puts them together.

The entries of a receiver are read in a loop, and each signature is added to the callables that
there are. What the loop comes to is said by `Callable.group`: one more signature extends the groups
by what it belongs to (`addOverload_group`), so after all entries the callables are the groups of
what was read, and a fault is that of the first entry that has one (`callablesOf_eq`).
-/

namespace SignatureAudit

/-! ## Names in a type -/

/-- A type names a category of objects, itself or at any depth of arrays and unions. -/
inductive TypeExpr.Mentions (name : String) : TypeExpr → Prop
  | named : Mentions name (.named name)
  | element {elem : TypeExpr} : Mentions name elem → Mentions name (.arrayOf elem)
  | arm {arms : List TypeExpr} {arm : TypeExpr} :
    arm ∈ arms → Mentions name arm → Mentions name (.union arms)

namespace TypeExpr

mutual

theorem mentions_of_mem_names {name : String} : (t : TypeExpr) → name ∈ t.names → t.Mentions name
  | .named other, h => by
    obtain rfl := List.mem_singleton.1 h
    exact .named
  | .arrayOf elem, h => .element (mentions_of_mem_names elem h)
  | .union arms, h =>
    let ⟨_, harm, mentioned⟩ := exists_mentions_of_mem_namesOfArms arms h
    .arm harm mentioned
  | .array, h | .any, h | .none, h => absurd h List.not_mem_nil

theorem exists_mentions_of_mem_namesOfArms {name : String} : (arms : List TypeExpr) →
    name ∈ namesOfArms arms → ∃ arm ∈ arms, arm.Mentions name
  | [], h => absurd h List.not_mem_nil
  | arm :: rest, h => by
    rw [namesOfArms, List.mem_append] at h
    cases h with
    | inl h => exact ⟨arm, List.mem_cons_self, mentions_of_mem_names arm h⟩
    | inr h =>
      obtain ⟨other, hother, mentioned⟩ := exists_mentions_of_mem_namesOfArms rest h
      exact ⟨other, List.mem_cons_of_mem _ hother, mentioned⟩

end

theorem mem_names_iff {name : String} {t : TypeExpr} : name ∈ t.names ↔ t.Mentions name := by
  refine ⟨mentions_of_mem_names t, fun h => ?_⟩
  induction h with
  | named => exact List.mem_singleton_self name
  | element _ ih => exact ih
  | arm harm _ ih =>
    rw [names, namesOfArms_eq, List.mem_flatMap]
    exact ⟨_, harm, ih⟩

end TypeExpr

/-! ## Groups of overloads -/

/-- Callables with one receiver: their names differ, and each has overloads with its own name. -/
structure Callable.Grouped (receiver : Option String) (callables : List Callable) : Prop where
  distinct : (callables.map (·.name)).Nodup
  received : ∀ c ∈ callables, c.receiver = receiver
  overloaded : ∀ c ∈ callables, c.overloads ≠ []
  carried : ∀ c ∈ callables, ∀ s ∈ c.overloads, s.name = c.name ∧ s.receiver = c.receiver

namespace Callable

variable {receiver : Option String} {callables : List Callable} {signatures : List Signature}
  {c : Callable} {s : Signature}

/-- Signatures of one receiver, gathered by name: callables stand in the order in which their names
first appear, overloads in the order of the signatures. -/
def group (receiver : Option String) (signatures : List Signature) : List Callable :=
  (distinct (signatures.map (·.name))).map fun name =>
    ⟨name, receiver, signatures.filter (·.name = name)⟩

theorem names_group :
    (group receiver signatures).map (·.name) = distinct (signatures.map (·.name)) := by
  simp only [group, List.map_map]
  exact List.map_id _

/-- A signature of a new name makes a callable behind all others. -/
theorem addOverload_of_new (fresh : s.name ∉ callables.map (·.name)) :
    addOverload receiver s callables = callables ++ [⟨s.name, receiver, [s]⟩] := by
  induction callables with
  | nil => rfl
  | cons c rest ih =>
    rw [List.map_cons, List.mem_cons, not_or] at fresh
    rw [addOverload, if_neg (Ne.symm fresh.1), ih fresh.2, List.cons_append]

/-- A signature of a known name is the last overload of its callable, and the others stay. -/
theorem addOverload_of_known (differ : (callables.map (·.name)).Nodup)
    (known : s.name ∈ callables.map (·.name)) :
    addOverload receiver s callables = callables.map fun c =>
      if c.name = s.name then { c with overloads := c.overloads ++ [s] } else c := by
  induction callables with
  | nil => cases known
  | cons c rest ih =>
    rw [List.map_cons, List.nodup_cons] at differ
    rw [List.map_cons, List.mem_cons] at known
    rw [addOverload, List.map_cons]
    by_cases here : c.name = s.name
    · -- no further callable has the name of this one
      have others : ∀ d ∈ rest, d.name ≠ s.name := fun d hd same =>
        differ.1 (here ▸ same ▸ List.mem_map_of_mem hd)
      rw [if_pos here, if_pos here, List.map_congr_left fun d hd => if_neg (others d hd),
        List.map_id']
    · rw [if_neg here, if_neg here, ih differ.2 (known.resolve_left (Ne.symm here))]

theorem group_concat_of_new (fresh : s.name ∉ signatures.map (·.name)) :
    group receiver (signatures ++ [s])
      = group receiver signatures ++ [⟨s.name, receiver, [s]⟩] := by
  -- the groups that are there have other names, and no signature had the new one
  have others : ∀ name ∈ distinct (signatures.map (·.name)), s.name ≠ name :=
    fun name hname same => fresh (same ▸ mem_distinct.1 hname)
  have before : signatures.filter (·.name = s.name) = [] :=
    List.filter_eq_nil_iff.2 fun other hother same =>
      fresh (of_decide_eq_true same ▸ List.mem_map_of_mem hother)
  rw [group, group, List.map_append, List.map_singleton, distinct_concat_of_not_mem fresh,
    List.map_append, List.map_singleton]
  refine congrArg₂ (· ++ ·) (List.map_congr_left fun name hname => ?_) ?_
  · simp [others name hname]
  · simp [before]

theorem group_concat_of_known (known : s.name ∈ signatures.map (·.name)) :
    group receiver (signatures ++ [s]) = (group receiver signatures).map fun c =>
      if c.name = s.name then { c with overloads := c.overloads ++ [s] } else c := by
  rw [group, group, List.map_append, List.map_singleton, distinct_concat_of_mem known,
    List.map_map]
  refine List.map_congr_left fun name _ => ?_
  by_cases own : name = s.name
  · simp [own]
  · simp [own, Ne.symm own]

/-- One more signature extends the groups by what it belongs to. -/
theorem addOverload_group (s : Signature) : addOverload receiver s (group receiver signatures)
    = group receiver (signatures ++ [s]) := by
  have listed : s.name ∈ (group receiver signatures).map (·.name) ↔
      s.name ∈ signatures.map (·.name) := by rw [names_group, mem_distinct]
  have differ : ((group receiver signatures).map (·.name)).Nodup := names_group ▸ nodup_distinct _
  by_cases known : s.name ∈ signatures.map (·.name)
  · rw [addOverload_of_known differ (listed.2 known), group_concat_of_known known]
  · rw [addOverload_of_new (mt listed.1 known), group_concat_of_new known]

theorem mem_group_iff : c ∈ group receiver signatures ↔ ∃ name ∈ signatures.map (·.name),
    c = ⟨name, receiver, signatures.filter (·.name = name)⟩ := by
  simp only [group, List.mem_map (l := distinct _), mem_distinct, eq_comm]

/-- Signatures of one receiver are grouped. -/
theorem grouped_group (same : ∀ s ∈ signatures, s.receiver = receiver) :
    Grouped receiver (group receiver signatures) where
  distinct := names_group ▸ nodup_distinct _
  received c hc := by
    obtain ⟨name, -, rfl⟩ := mem_group_iff.1 hc
    rfl
  overloaded c hc := by
    obtain ⟨name, hname, rfl⟩ := mem_group_iff.1 hc
    obtain ⟨s, hs, rfl⟩ := List.mem_map.1 hname
    exact List.ne_nil_of_mem (List.mem_filter.2 ⟨hs, decide_eq_true rfl⟩)
  carried c hc s hs := by
    obtain ⟨name, -, rfl⟩ := mem_group_iff.1 hc
    obtain ⟨hs, named⟩ := List.mem_filter.1 hs
    exact ⟨of_decide_eq_true named, same s hs⟩

/-- Grouping keeps every signature. -/
theorem mem_overloads_group :
    s ∈ (group receiver signatures).flatMap (·.overloads) ↔ s ∈ signatures := by
  rw [List.mem_flatMap]
  constructor
  · rintro ⟨c, hc, hs⟩
    obtain ⟨name, -, rfl⟩ := mem_group_iff.1 hc
    exact (List.mem_filter.1 hs).1
  · intro hs
    exact ⟨_, mem_group_iff.2 ⟨s.name, List.mem_map_of_mem hs, rfl⟩,
      List.mem_filter.2 ⟨hs, decide_eq_true rfl⟩⟩

end Callable

namespace Catalog

/-! ## Entries -/

/-- The parameter set that an item of a parameter list stands for, if it stands for one. -/
def spliced? (item : String) : Option String := Text.dropFront? ".." (Text.trim item)

/-- The declarations that an item stands for: those of the set that it splices in, or itself. -/
def declarationsOf (sets : List (String × List String)) (item : String) : List String :=
  match spliced? item with
  | none => [item]
  | some set => (sets.lookup set).getD []

/-- The parameters and the return type that an entry declares. -/
structure CallableEntry.Declares (sets : List (String × List String)) (entry : CallableEntry)
    (params : List Parameter) (returns : TypeExpr) : Prop where
  known : ∀ item ∈ entry.params, ∀ set, spliced? item = some set → set ∈ sets.map (·.1)
  params : Parameter.readAll false (entry.params.flatMap (declarationsOf sets)) = .ok params
  returns : TypeExpr.read entry.returns = .ok returns

variable {sets : List (String × List String)} {owner item : String} {entry : CallableEntry}
  {receiver : Option String} {s : Signature} {params : List Parameter} {returns : TypeExpr}

theorem splice_eq_ok_iff {declarations : List String} :
    splice sets owner item = .ok declarations ↔
      (∀ set, spliced? item = some set → set ∈ sets.map (·.1)) ∧
      declarations = declarationsOf sets item := by
  rw [splice, declarationsOf, spliced?]
  cases Text.dropFront? ".." (Text.trim item) with
  | none => simp [eq_comm]
  | some set =>
    simp only [Option.some.injEq, forall_eq', ← isSome_lookup_iff]
    cases sets.lookup set <;> simp [eq_comm]

theorem splices_eq_ok_iff {items : List String} {parts : List (List String)} :
    items.mapM (splice sets owner) = .ok parts ↔
      (∀ item ∈ items, ∀ set, spliced? item = some set → set ∈ sets.map (·.1)) ∧
      parts = items.map (declarationsOf sets) := by
  have stand {parts : List (List String)} (h : items.mapM (splice sets owner) = .ok parts) :
      parts = items.map (declarationsOf sets) := by
    rw [← map_of_mapM_eq_ok h fun ran => (splice_eq_ok_iff.1 ran).2, List.map_id']
  constructor
  · intro h
    refine ⟨fun item hitem => ?_, stand h⟩
    obtain ⟨_, ran⟩ := exists_mapM_eq_ok_iff.1 ⟨_, h⟩ item hitem
    exact (splice_eq_ok_iff.1 ran).1
  · rintro ⟨known, rfl⟩
    have each : ∀ item ∈ items, ∃ part, splice sets owner item = .ok part :=
      fun item hitem => ⟨_, splice_eq_ok_iff.2 ⟨known item hitem, rfl⟩⟩
    obtain ⟨parts, h⟩ := exists_mapM_eq_ok_iff.2 each
    rw [h, stand h]

/-- An entry has a signature if it declares something, and that is what the signature says. -/
theorem signature_eq_ok_iff : entry.signature receiver sets = .ok s ↔
    entry.Declares sets s.params s.returns ∧ s.name = entry.name ∧ s.receiver = receiver := by
  simp only [CallableEntry.signature, bind_eq_ok_iff, mapError_eq_ok_iff, splices_eq_ok_iff]
  constructor
  · rintro ⟨_, ⟨known, rfl⟩, params, hparams, returns, hreturns, same⟩
    obtain rfl := Except.ok.inj same
    exact ⟨⟨known, hparams, hreturns⟩, rfl, rfl⟩
  · rintro ⟨declares, named, received⟩
    refine ⟨_, ⟨declares.known, rfl⟩, s.params, declares.params, s.returns, declares.returns, ?_⟩
    rw [← named, ← received]

section

variable {entries : List CallableEntry} {callables : List Callable}

/-- One more entry extends the groups by its signature. -/
theorem addEntry_group (read : List Signature) :
    addEntry receiver sets (Callable.group receiver read) entry
      = entry.signature receiver sets >>= fun s => .ok (Callable.group receiver (read ++ [s])) := by
  simp only [addEntry, Callable.addOverload_group]

/-- All entries extend the groups by what is read of them. -/
theorem foldlM_addEntry_group (read : List Signature) :
    entries.foldlM (addEntry receiver sets) (Callable.group receiver read)
      = entries.mapM (·.signature receiver sets) >>= fun signatures =>
        .ok (Callable.group receiver (read ++ signatures)) := by
  induction entries generalizing read with
  | nil =>
    rw [List.foldlM_nil, List.mapM_nil, pure_bind, List.append_nil]
    rfl
  | cons entry rest ih =>
    rw [List.foldlM_cons, addEntry_group, List.mapM_cons, bind_assoc, bind_assoc]
    refine bind_congr fun s => (ih (read ++ [s])).trans ?_
    rw [bind_assoc]
    refine bind_congr fun signatures => ?_
    rw [pure_bind, ← List.append_cons]

/-- **The callables of some entries** are the groups of their signatures, and the first entry that
cannot be read gives the fault. -/
theorem callablesOf_eq : callablesOf receiver sets entries
    = entries.mapM (·.signature receiver sets) >>= fun signatures =>
      .ok (Callable.group receiver signatures) :=
  foldlM_addEntry_group []

theorem callablesOf_eq_ok_iff : callablesOf receiver sets entries = .ok callables ↔
    ∃ signatures, entries.mapM (·.signature receiver sets) = .ok signatures ∧
      callables = Callable.group receiver signatures := by
  rw [callablesOf_eq, bind_eq_ok_iff]
  simp only [Except.ok.injEq, eq_comm]

theorem grouped_callablesOf (h : callablesOf receiver sets entries = .ok callables) :
    Callable.Grouped receiver callables := by
  obtain ⟨signatures, ran, rfl⟩ := callablesOf_eq_ok_iff.1 h
  refine Callable.grouped_group fun s hs => ?_
  obtain ⟨entry, -, read⟩ := (mem_of_mapM_eq_ok ran).1 hs
  exact (signature_eq_ok_iff.1 read).2.2

/-- The overloads of the callables are what the entries declare. -/
theorem exists_overload_callablesOf_iff
    (h : callablesOf receiver sets entries = .ok callables) :
    (∃ s ∈ callables.flatMap (·.overloads), s.params = params ∧ s.returns = returns) ↔
      ∃ entry ∈ entries, entry.Declares sets params returns := by
  obtain ⟨signatures, ran, rfl⟩ := callablesOf_eq_ok_iff.1 h
  simp only [Callable.mem_overloads_group, mem_of_mapM_eq_ok ran, signature_eq_ok_iff]
  constructor
  · rintro ⟨s, ⟨entry, hentry, declares, -⟩, rfl, rfl⟩
    exact ⟨entry, hentry, declares⟩
  · rintro ⟨entry, hentry, declares⟩
    exact ⟨⟨entry.name, receiver, params, returns⟩, ⟨entry, hentry, declares, rfl, rfl⟩, rfl, rfl⟩

theorem exists_callablesOf_iff : (∃ callables, callablesOf receiver sets entries = .ok callables) ↔
    ∀ entry ∈ entries, ∃ params returns, entry.Declares sets params returns := by
  have signed : (∃ callables, callablesOf receiver sets entries = .ok callables) ↔
      ∃ signatures, entries.mapM (·.signature receiver sets) = .ok signatures := by
    simp only [callablesOf_eq_ok_iff]
    exact ⟨fun ⟨_, signatures, ran, _⟩ => ⟨signatures, ran⟩,
      fun ⟨signatures, ran⟩ => ⟨_, signatures, ran, rfl⟩⟩
  rw [signed, exists_mapM_eq_ok_iff]
  refine forall₂_congr fun entry _ => ⟨?_, ?_⟩
  · rintro ⟨s, read⟩
    exact ⟨_, _, (signature_eq_ok_iff.1 read).1⟩
  · rintro ⟨params, returns, declares⟩
    exact ⟨⟨entry.name, receiver, params, returns⟩, signature_eq_ok_iff.2 ⟨declares, rfl, rfl⟩⟩

end

/-! ## Documents -/

variable {d : Document} {c : Catalog}

/-- The rows of the hierarchy of a document. -/
def Document.rows (d : Document) : List TypeRow := d.types.map fun t => (t.name, t.parent)

/-- The entries of a document, functions and methods. -/
def Document.entries (d : Document) : List CallableEntry :=
  d.functions ++ d.types.flatMap (·.methods)

/-- A document whose types make a hierarchy, whose entries can be read, and whose entries name no
type that it does not declare. -/
structure Document.Consistent (d : Document) : Prop where
  hierarchy : Hierarchy.Consistent d.rows
  readable : ∀ entry ∈ d.entries, ∃ params returns, entry.Declares d.paramSets params returns
  declared : ∀ entry ∈ d.entries, ∀ params returns, entry.Declares d.paramSets params returns →
    ∀ t ∈ returns :: params.map (·.type), ∀ name, t.Mentions name → name ∈ d.rows.map (·.1)

/-- A catalog in which callables and types are found under their names, and in which all types that
the hierarchy knows are found. -/
structure WellFormed (c : Catalog) : Prop where
  functions : Callable.Grouped none c.functions
  methods : ∀ t ∈ c.types, Callable.Grouped (some t.name) t.methods
  type?_iff : ∀ {name : String} {t : TypeInfo}, c.type? name = some t ↔ t ∈ c.types ∧ t.name = name
  contains_iff : ∀ name, (c.type? name).isSome = true ↔ c.hierarchy.contains name = true
  ancestors : ∀ {name above : String}, above ∈ c.hierarchy.ancestors name →
    (c.type? above).isSome = true

/-- A type with the methods that its entry lists. -/
def TypeEntry.info (sets : List (String × List String)) (t : TypeEntry) :
    Except Fault TypeInfo := do
  let methods ← callablesOf (some t.name) sets t.methods
  .ok ⟨t.name, t.parent, methods⟩

theorem info_eq_ok_iff {t : TypeEntry} {info : TypeInfo} : t.info sets = .ok info ↔
    info.name = t.name ∧ info.parent = t.parent ∧
      callablesOf (some t.name) sets t.methods = .ok info.methods := by
  rw [TypeEntry.info, bind_eq_ok_iff]
  constructor
  · rintro ⟨methods, ran, same⟩
    obtain rfl := Except.ok.inj same
    exact ⟨rfl, rfl, ran⟩
  · rintro ⟨named, parented, ran⟩
    exact ⟨info.methods, ran, by rw [← named, ← parented]⟩

/-- A document is loaded if each of its parts is, and no signature names an undeclared type. -/
theorem ofDocument_eq_ok_iff : ofDocument d = .ok c ↔
    Hierarchy.ofRows d.rows = .ok c.hierarchy ∧
    callablesOf none d.paramSets d.functions = .ok c.functions ∧
    d.types.mapM (·.info d.paramSets) = .ok c.types ∧ firstUndeclared? c = none := by
  rw [ofDocument]
  simp only [bind_eq_ok_iff, mapError_eq_ok_iff]
  constructor
  · rintro ⟨hierarchy, built, functions, ran, types, listed, checked⟩
    cases undeclared : firstUndeclared? ⟨functions, types, hierarchy⟩ with
    | some fault =>
      rw [undeclared] at checked
      cases checked
    | none =>
      rw [undeclared] at checked
      obtain rfl := Except.ok.inj checked
      exact ⟨built, ran, listed, undeclared⟩
  · rintro ⟨built, ran, listed, undeclared⟩
    exact ⟨c.hierarchy, built, c.functions, ran, c.types, listed, by rw [undeclared]⟩

theorem undeclared?_eq_none_iff {h : Hierarchy} {mention : TypeExpr × String} :
    undeclared? h mention = none ↔
      ∀ name, mention.1.Mentions name → h.contains name = true := by
  simp [undeclared?, TypeExpr.mem_names_iff]

theorem forall_mentions_iff {P : TypeExpr → Prop} :
    (∀ mention ∈ mentions s, P mention.1) ↔ ∀ t ∈ s.returns :: s.params.map (·.type), P t := by
  rw [mentions, List.forall_mem_append, List.forall_mem_map, List.forall_mem_singleton,
    List.forall_mem_cons, List.forall_mem_map, and_comm]

/-- No fault is found if all types are declared that some overload names. -/
theorem firstUndeclared?_eq_none_iff : firstUndeclared? c = none ↔
    ∀ s ∈ c.callables.flatMap (·.overloads), ∀ t ∈ s.returns :: s.params.map (·.type),
      ∀ name, t.Mentions name → c.hierarchy.contains name = true := by
  simp only [firstUndeclared?, List.findSome?_eq_none_iff, undeclared?_eq_none_iff,
    List.forall_mem_flatMap (f := mentions)]
  refine forall₂_congr fun s _ => ?_
  let Declared (t : TypeExpr) : Prop := ∀ name, t.Mentions name → c.hierarchy.contains name = true
  exact forall_mentions_iff (P := Declared)

/-- The overloads of a catalog are what the entries of its document declare. -/
theorem exists_overload_iff
    (ran : callablesOf none d.paramSets d.functions = .ok c.functions)
    (listed : d.types.mapM (·.info d.paramSets) = .ok c.types) :
    (∃ s ∈ c.callables.flatMap (·.overloads), s.params = params ∧ s.returns = returns) ↔
      ∃ entry ∈ d.entries, entry.Declares d.paramSets params returns := by
  simp only [callables, Document.entries, List.flatMap_append, List.mem_append, or_and_right,
    exists_or]
  refine or_congr (exists_overload_callablesOf_iff ran) ?_
  simp only [List.mem_flatMap]
  constructor
  · rintro ⟨s, ⟨callable, ⟨t, ht, hcallable⟩, hs⟩, same⟩
    obtain ⟨written, hwritten, read⟩ := (mem_of_mapM_eq_ok listed).1 ht
    obtain ⟨-, -, methods⟩ := info_eq_ok_iff.1 read
    obtain ⟨entry, hentry, declares⟩ := (exists_overload_callablesOf_iff methods).1
      ⟨s, List.mem_flatMap.2 ⟨callable, hcallable, hs⟩, same⟩
    exact ⟨entry, ⟨written, hwritten, hentry⟩, declares⟩
  · rintro ⟨entry, ⟨written, hwritten, hentry⟩, declares⟩
    obtain ⟨t, read⟩ := exists_mapM_eq_ok_iff.1 ⟨_, listed⟩ written hwritten
    obtain ⟨-, -, methods⟩ := info_eq_ok_iff.1 read
    obtain ⟨s, hs, same⟩ := (exists_overload_callablesOf_iff methods).2 ⟨entry, hentry, declares⟩
    obtain ⟨callable, hcallable, hs⟩ := List.mem_flatMap.1 hs
    have ht := (mem_of_mapM_eq_ok listed).2 ⟨written, hwritten, read⟩
    exact ⟨s, ⟨callable, ⟨t, ht, hcallable⟩, hs⟩, same⟩

/-- What is checked of the overloads is checked of the entries. -/
theorem forall_overloads_iff
    (ran : callablesOf none d.paramSets d.functions = .ok c.functions)
    (listed : d.types.mapM (·.info d.paramSets) = .ok c.types)
    {P : List Parameter → TypeExpr → Prop} :
    (∀ s ∈ c.callables.flatMap (·.overloads), P s.params s.returns) ↔
      ∀ entry ∈ d.entries, ∀ params returns, entry.Declares d.paramSets params returns →
        P params returns := by
  constructor
  · intro h entry hentry params returns declares
    obtain ⟨s, hs, rfl, rfl⟩ := (exists_overload_iff ran listed).2 ⟨entry, hentry, declares⟩
    exact h s hs
  · intro h s hs
    obtain ⟨entry, hentry, declares⟩ := (exists_overload_iff ran listed).1 ⟨s, hs, rfl, rfl⟩
    exact h entry hentry _ _ declares

/-- The types of a catalog have the names of the rows. -/
theorem names_of_types (listed : d.types.mapM (·.info d.paramSets) = .ok c.types) :
    c.types.map (·.name) = d.rows.map (·.1) := by
  rw [map_of_mapM_eq_ok listed fun ran => (info_eq_ok_iff.1 ran).1, Document.rows, List.map_map]
  rfl

theorem isSome_type?_iff {name : String} :
    (c.type? name).isSome = true ↔ name ∈ c.types.map (·.name) := by
  simp [type?, List.find?_isSome]

/-- Of elements with distinct names, each is found under its own. -/
theorem find?_eq_some_of_nodup {α : Type} {name : α → String} {list : List α}
    (distinct : (list.map name).Nodup) {a : α} (ha : a ∈ list) :
    list.find? (name · == name a) = some a := by
  have some_found : (list.find? (name · == name a)).isSome = true :=
    List.find?_isSome.2 ⟨a, ha, beq_self_eq_true _⟩
  obtain ⟨other, found⟩ := Option.isSome_iff_exists.1 some_found
  have named : name other = name a := by simpa using List.find?_some found
  rw [found, List.inj_on_of_nodup_map distinct (List.mem_of_find?_eq_some found) ha named]

/-- Of distinct names, each has the type that bears it. -/
theorem type?_eq_some_iff {name : String} {t : TypeInfo} (distinct : (c.types.map (·.name)).Nodup) :
    c.type? name = some t ↔ t ∈ c.types ∧ t.name = name := by
  constructor
  · intro found
    exact ⟨List.mem_of_find?_eq_some found, by simpa using List.find?_some found⟩
  · rintro ⟨ht, rfl⟩
    exact find?_eq_some_of_nodup distinct ht

theorem wellFormed_of_ofDocument (loaded : ofDocument d = .ok c) : c.WellFormed := by
  obtain ⟨built, ran, listed, -⟩ := ofDocument_eq_ok_iff.1 loaded
  have names := names_of_types listed
  have distinct : (c.types.map (·.name)).Nodup :=
    names ▸ (Hierarchy.exists_ofRows_iff.1 ⟨_, built⟩).distinct
  refine ⟨grouped_callablesOf ran, fun t ht => ?_, type?_eq_some_iff distinct, fun name => ?_,
    fun {name above} habove => ?_⟩
  · obtain ⟨entry, -, read⟩ := (mem_of_mapM_eq_ok listed).1 ht
    obtain ⟨named, -, methods⟩ := info_eq_ok_iff.1 read
    exact named ▸ grouped_callablesOf methods
  · rw [isSome_type?_iff, Hierarchy.contains_iff built, names]
  · rw [isSome_type?_iff, names]
    exact Hierarchy.ancestors_subset built name habove

theorem exists_info_iff {t : TypeEntry} : (∃ info, t.info sets = .ok info) ↔
    ∀ entry ∈ t.methods, ∃ params returns, entry.Declares sets params returns := by
  have listed : (∃ info, t.info sets = .ok info) ↔
      ∃ methods, callablesOf (some t.name) sets t.methods = .ok methods := by
    simp only [info_eq_ok_iff]
    exact ⟨fun ⟨info, _, _, ran⟩ => ⟨info.methods, ran⟩,
      fun ⟨methods, ran⟩ => ⟨⟨_, _, methods⟩, rfl, rfl, ran⟩⟩
  rw [listed, exists_callablesOf_iff]

/-- All entries can be read if the functions and the types can. -/
theorem readable_iff :
    (∀ entry ∈ d.entries, ∃ params returns, entry.Declares d.paramSets params returns) ↔
      (∃ functions, callablesOf none d.paramSets d.functions = .ok functions) ∧
      ∃ types, d.types.mapM (·.info d.paramSets) = .ok types := by
  rw [Document.entries, List.forall_mem_append, List.forall_mem_flatMap, exists_callablesOf_iff,
    exists_mapM_eq_ok_iff]
  simp only [exists_info_iff]

/-- The documents that make a catalog are the consistent ones. -/
theorem exists_ofDocument_iff : (∃ c, ofDocument d = .ok c) ↔ d.Consistent := by
  constructor
  · rintro ⟨c, loaded⟩
    obtain ⟨built, ran, listed, checked⟩ := ofDocument_eq_ok_iff.1 loaded
    refine ⟨Hierarchy.exists_ofRows_iff.1 ⟨_, built⟩, readable_iff.2 ⟨⟨_, ran⟩, _, listed⟩, ?_⟩
    simp only [← Hierarchy.contains_iff built]
    exact (forall_overloads_iff ran listed).1 (firstUndeclared?_eq_none_iff.1 checked)
  · intro consistent
    obtain ⟨hierarchy, built⟩ := Hierarchy.exists_ofRows_iff.2 consistent.hierarchy
    obtain ⟨⟨functions, ran⟩, types, listed⟩ := readable_iff.1 consistent.readable
    have declared := consistent.declared
    simp only [← Hierarchy.contains_iff built] at declared
    let c : Catalog := ⟨functions, types, hierarchy⟩
    have checked : firstUndeclared? c = none :=
      firstUndeclared?_eq_none_iff.2 ((forall_overloads_iff (c := c) ran listed).2 declared)
    exact ⟨c, ofDocument_eq_ok_iff.2 ⟨built, ran, listed, checked⟩⟩

/-- **Which documents are catalogs**: the consistent ones, and their catalogs are well formed. -/
theorem load_accepts_consistent {text : String} (decoded : Document.read? text = some d) :
    ((∃ c, load text = .ok c) ↔ d.Consistent) ∧ ∀ {c}, load text = .ok c → c.WellFormed := by
  have same : load text = ofDocument d := by rw [load, decoded]
  rw [same]
  exact ⟨exists_ofDocument_iff, wellFormed_of_ofDocument⟩

/-- A document of a type whose method splices a parameter set in. -/
def spliceDocument : Document where
  paramSets := [("p", [])]
  types := [{ name := "A", methods := [{ name := "m", params := ["..p"], returns := "A" }] }]

theorem consistent_spliceDocument : spliceDocument.Consistent := by
  have read : TypeExpr.read "A" = .ok (.named "A") := by
    have alone : TypeExpr.tokens "A" = [⟨.word "A", 0⟩] := by decide
    exact TypeExpr.read_of_word alone rfl
  have splices : spliced? "..p" = some "p" := by decide
  have spread : ["..p"].flatMap (declarationsOf spliceDocument.paramSets) = [] := by decide
  have built : Hierarchy.ofRows spliceDocument.rows = .ok ⟨[("A", ["A"])]⟩ := by
    rw [Hierarchy.ofRows_eq (by decide)]
    rfl
  refine ⟨Hierarchy.exists_ofRows_iff.1 ⟨_, built⟩, fun entry hentry => ?_, ?_⟩
  · obtain rfl := List.mem_singleton.1 hentry
    refine ⟨[], .named "A", fun item hitem set hset => ?_, ?_, read⟩
    · obtain rfl := List.mem_singleton.1 hitem
      obtain rfl := Option.some.inj (splices.symm.trans hset)
      exact List.mem_singleton_self _
    · rw [spread]
      rfl
  · intro entry hentry params returns declares t ht name mentioned
    obtain rfl := List.mem_singleton.1 hentry
    obtain rfl := Except.ok.inj (read.symm.trans declares.returns)
    have none_declared := declares.params
    rw [spread] at none_declared
    obtain rfl := Except.ok.inj none_declared
    obtain rfl := List.mem_singleton.1 ht
    cases mentioned
    decide

/-- A text of the document, in which entries are written as arrays. -/
def spliceText : String :=
  "\x7b\"param_sets\":\x7b\"p\":[]\x7d,\"types\":[[\"A\",null,[[\"m\",[\"..p\"],\"A\"]]]]\x7d"

set_option maxRecDepth 2000 in
/-- The text is loaded, and its catalog is well formed. -/
theorem load_spliceText :
    Document.read? spliceText = some spliceDocument ∧
      ∃ c, load spliceText = .ok c ∧ c.WellFormed := by
  have decoded : Document.read? spliceText = some spliceDocument := by cbv
  obtain ⟨accepted, formed⟩ := load_accepts_consistent decoded
  obtain ⟨c, loaded⟩ := accepted.2 consistent_spliceDocument
  exact ⟨decoded, c, loaded, formed loaded⟩

end Catalog

end SignatureAudit
