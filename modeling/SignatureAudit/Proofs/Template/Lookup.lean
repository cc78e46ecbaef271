import SignatureAudit.Proofs.Effect
import SignatureAudit.Proofs.Entries
import SignatureAudit.Proofs.TypeExpr.Canonical
import SignatureAudit.Template.Load
import Mathlib

/-!
# Templates are found by type

Templates are kept by the canonical texts of their type keys and looked up by the canonical text of
a type. What a lookup finds can be told from the document alone, in terms of types: the document has
four groups of templates for a type in a context (`Document.groups`), from the most specific one to
the defaults, and the answer is the last template of the first group that has any. How a key is
spelled does not matter (`Document.Respelled`).

Entries are compared one by one (`lookupLast?_of_forall₂`). That a loaded key is the canonical text
of a type if and only if the key reads to that type (`key_eq_canonical_iff`) is all that is used of
types.
-/

namespace SignatureAudit.Template

open Templates (paramTemplate? overrideTemplate?)

/-! ## What a document gives for a type -/

/-- Whether a key reads to a type. -/
def readsTo (type : TypeExpr) (key : String) : Bool :=
  match TypeExpr.read key with
  | .ok found => found = type
  | .error _ => false

/-- The templates of the entries whose keys read to a type, in their order. -/
def templatesAt (type : TypeExpr) (entries : List (String × String)) : List String :=
  (entries.filter (readsTo type ·.1)).map (·.2)

namespace OverrideEntry

/-- The templates for a parameter at a type, in their order. -/
def typedTemplates (entry : OverrideEntry) (type : TypeExpr) (param : String) : List String :=
  (entry.typedParams.filter fun e => e.name = param && readsTo type e.type).map (·.template)

/-- The templates for a parameter at any type. -/
def paramTemplates (entry : OverrideEntry) (param : String) : List String :=
  (entry.params.filter (·.1 = param)).map (·.2)

/-- The templates for a type and perhaps a parameter, by how specific they are: for the parameter at
the type, for the parameter, for the type. -/
def groups (entry : OverrideEntry) (type : TypeExpr) (param : Option String) : List (List String) :=
  [param.toList.flatMap (entry.typedTemplates type), param.toList.flatMap entry.paramTemplates,
    templatesAt type entry.types]

end OverrideEntry

namespace Document

/-- The overrides that apply in a context: those of the first callable that has an entry, whatever
the entry is about. -/
def overrideIn? (d : Document) (context : Context) : Option OverrideEntry :=
  context.callables.findSome? (d.overrides.lookup ·)

/-- The templates for a type in a context, by how specific they are: those of the overrides, if some
apply, and the defaults. -/
def groups (d : Document) (type : TypeExpr) (context : Context) : List (List String) :=
  ((d.overrideIn? context).getD {}).groups type context.param ++ [templatesAt type d.defaults]

/-- The group that decides, with those in front of it: the first one that has a template. -/
structure Decides (d : Document) (type : TypeExpr) (context : Context) (front : List (List String))
    (group : List String) : Prop where
  among : ∃ back, d.groups type context = front ++ group :: back
  empty : ∀ other ∈ front, other = []
  some_template : group ≠ []

end Document

/-! ## Keys -/

variable {type : TypeExpr} {key expr : String}

theorem readsTo_iff : readsTo type key = true ↔ TypeExpr.read key = .ok type := by
  unfold readsTo
  cases TypeExpr.read key <;> simp

theorem canonicalKey_eq_ok_iff :
    canonicalKey expr = .ok key ↔ ∃ type, TypeExpr.read expr = .ok type ∧ type.canonical = key := by
  unfold canonicalKey
  cases TypeExpr.read expr <;> simp

/-- A loaded key is the canonical text of a type if and only if it was read to that type. -/
theorem key_eq_canonical_iff (loaded : canonicalKey expr = .ok key) (h : type.Canonical) :
    key = type.canonical ↔ readsTo type expr = true := by
  obtain ⟨found, read, rfl⟩ := canonicalKey_eq_ok_iff.1 loaded
  rw [readsTo_iff, read, Except.ok.injEq]
  constructor
  · intro same
    exact (TypeExpr.canonical_of_read read).canonical_inj h same
  · intro same
    rw [same]

/-! ## Entries -/

theorem lookupLast?_eq_getLast? {κ α : Type} [DecidableEq κ] (key : κ) (entries : List (κ × α)) :
    lookupLast? key entries = ((entries.filter (·.1 = key)).map (·.2)).getLast? := by
  unfold lookupLast?
  rw [List.getLast?_map]

/-- If a key is had by those entries that were made of certain elements, the last of these elements
tells what is found at the key. -/
theorem lookupLast?_of_forall₂ {ι κ α : Type} [DecidableEq κ] {key : κ} {chosen : ι → Bool}
    {value : ι → α} {list : List ι} {entries : List (κ × α)}
    (h : List.Forall₂ (fun i e => (e.1 = key ↔ chosen i = true) ∧ e.2 = value i) list entries) :
    lookupLast? key entries = ((list.filter chosen).map value).getLast? := by
  rw [lookupLast?_eq_getLast?]
  congr 1
  induction h with
  | nil => rfl
  | @cons i e list entries first others ih =>
    obtain ⟨same, made⟩ := first
    by_cases here : chosen i = true
    · rw [List.filter_cons_of_pos here, List.filter_cons_of_pos (by simp [same.2 here]),
        List.map_cons, List.map_cons, ih, made]
    · rw [List.filter_cons_of_neg here, List.filter_cons_of_neg (by simp [same, here]), ih]

theorem rel_findSome? {ι α β : Type} {R : α → β → Prop} {f : ι → Option α} {g : ι → Option β}
    (h : ∀ i, Option.Rel R (f i) (g i)) (list : List ι) :
    Option.Rel R (list.findSome? f) (list.findSome? g) := by
  induction list with
  | nil => exact .none
  | cons i rest ih =>
    have first := h i
    rw [List.findSome?_cons, List.findSome?_cons]
    generalize f i = found at first
    generalize g i = found' at first
    cases first with
    | some rel => exact .some rel
    | none => exact ih

/-! ## Loading -/

section

variable {entries keyed : List (String × String)} {entry : OverrideEntry} {set : OverrideSet}
  {d : Document} {templates : Templates}

/-- Templates by type are found by types. -/
theorem lookupLast?_byType (loaded : byType entries = .ok keyed) (h : type.Canonical) :
    lookupLast? type.canonical keyed = (templatesAt type entries).getLast? := by
  refine lookupLast?_of_forall₂ ((mapM_eq_ok_iff_forall₂.1 loaded).imp ?_)
  rintro ⟨expr, template⟩ e made
  obtain ⟨key, canonical, whole⟩ := bind_eq_ok_iff.1 made
  obtain rfl := Except.ok.inj whole
  exact ⟨key_eq_canonical_iff canonical h, rfl⟩

namespace OverrideEntry

/-- What has to be loaded of the overrides of a callable; the rest is kept as it is. -/
theorem load_eq_ok_iff : entry.load = .ok set ↔
    (entry.typedParams.mapM fun typed => do
        let key ← canonicalKey typed.type
        .ok ((typed.name, key), typed.template)) = .ok set.typedParams ∧
      byType entry.types = .ok set.types ∧ entry.receiver = set.receiver ∧
      entry.params = set.params := by
  unfold load
  rw [bind_eq_ok_iff]
  constructor
  · rintro ⟨typedParams, typed, rest⟩
    obtain ⟨types, byTypes, whole⟩ := bind_eq_ok_iff.1 rest
    obtain rfl := Except.ok.inj whole
    exact ⟨typed, byTypes, rfl, rfl⟩
  · obtain ⟨receiver, typedParams, params, types⟩ := set
    rintro ⟨typed, byTypes, rfl, rfl⟩
    exact ⟨typedParams, typed, bind_eq_ok_iff.2 ⟨types, byTypes, rfl⟩⟩

/-- A template for a parameter is the last one for it at the type, or else at any type. -/
theorem paramTemplate?_of_load (loaded : entry.load = .ok set) (h : type.Canonical)
    (param : String) : paramTemplate? set param type.canonical
      = (entry.typedTemplates type param).getLast?.or (entry.paramTemplates param).getLast? := by
  obtain ⟨typed, -, -, params⟩ := load_eq_ok_iff.1 loaded
  have specific : lookupLast? (param, type.canonical) set.typedParams
      = (entry.typedTemplates type param).getLast? := by
    refine lookupLast?_of_forall₂ ((mapM_eq_ok_iff_forall₂.1 typed).imp ?_)
    intro e made read
    obtain ⟨key, canonical, whole⟩ := bind_eq_ok_iff.1 read
    obtain rfl := Except.ok.inj whole
    refine ⟨?_, rfl⟩
    rw [Prod.mk.injEq, key_eq_canonical_iff canonical h, Bool.and_eq_true, decide_eq_true_iff]
  unfold paramTemplate? paramTemplates
  rw [specific, lookupLast?_eq_getLast?, params]

theorem lookupLast?_types_of_load (loaded : entry.load = .ok set) (h : type.Canonical) :
    lookupLast? type.canonical set.types = (templatesAt type entry.types).getLast? :=
  lookupLast?_byType (load_eq_ok_iff.1 loaded).2.1 h

end OverrideEntry

/-- What has to be loaded of a document. -/
theorem ofDocument_eq_ok_iff : ofDocument d = .ok templates ↔
    d.schemaVersion = 1 ∧ byType d.defaults = .ok templates.defaults ∧
      (d.overrides.mapM fun (callable, entry) => do
        let set ← entry.load
        .ok (callable, set)) = .ok templates.overrides ∧
      templates.directory = none := by
  unfold ofDocument
  by_cases known : d.schemaVersion = 1
  · rw [if_neg (not_not.2 known), bind_eq_ok_iff]
    constructor
    · rintro ⟨defaults, byTypes, rest⟩
      obtain ⟨overrides, sets, whole⟩ := bind_eq_ok_iff.1 rest
      obtain rfl := Except.ok.inj whole
      exact ⟨known, byTypes, sets, rfl⟩
    · obtain ⟨defaults, overrides, directory⟩ := templates
      rintro ⟨-, byTypes, sets, rfl⟩
      exact ⟨defaults, byTypes, bind_eq_ok_iff.2 ⟨overrides, sets, rfl⟩⟩
  · rw [if_pos known]
    constructor
    · intro loaded
      cases loaded
    · intro loaded
      exact absurd loaded.1 known

theorem load_eq_ok_iff {text : String} : load text = .ok templates ↔
    ∃ d, Document.read? text = some d ∧ ofDocument d = .ok templates := by
  unfold load
  cases Document.read? text with
  | none => simp
  | some d => simp

/-- Of the overrides of the document and of the loaded ones, the same apply in a context. -/
theorem rel_overridesIn? (loaded : ofDocument d = .ok templates) (context : Context) :
    Option.Rel (fun entry set => OverrideEntry.load entry = .ok set) (d.overrideIn? context)
      (templates.overridesIn? context) := by
  obtain ⟨-, -, sets, -⟩ := ofDocument_eq_ok_iff.1 loaded
  refine rel_findSome? (rel_lookup_of_forall₂ ((mapM_eq_ok_iff_forall₂.1 sets).imp ?_)) _
  rintro ⟨callable, entry⟩ made read
  obtain ⟨set, found, whole⟩ := bind_eq_ok_iff.1 read
  obtain rfl := Except.ok.inj whole
  exact ⟨rfl, found⟩

end

/-! ## Looking up -/

section

variable {entry : OverrideEntry} {set : OverrideSet} {d : Document} {templates : Templates}

theorem findSome?_cons_eq_or {α β : Type} (f : α → Option β) (a : α) (rest : List α) :
    (a :: rest).findSome? f = (f a).or (rest.findSome? f) := by
  rw [List.findSome?_cons]
  cases f a <;> rfl

/-- Overrides give the last template of their first group that has any. -/
theorem overrideTemplate?_of_load (loaded : entry.load = .ok set) (h : type.Canonical)
    (param : Option String) : overrideTemplate? set param type.canonical
      = (entry.groups type param).findSome? List.getLast? := by
  have types := OverrideEntry.lookupLast?_types_of_load loaded h
  unfold overrideTemplate? OverrideEntry.groups
  rw [types]
  simp only [findSome?_cons_eq_or, List.findSome?_nil, Option.or_none]
  cases param with
  | none => rfl
  | some param =>
    have params := OverrideEntry.paramTemplate?_of_load loaded h param
    simp only [Option.bind_some, params, Option.toList_some, List.flatMap_singleton,
      Option.or_assoc]

/-- Where no overrides apply, what is found is what overrides without templates give. -/
theorem overrideIn_of_ofDocument (loaded : ofDocument d = .ok templates) (h : type.Canonical)
    (context : Context) :
    (templates.overridesIn? context).bind (overrideTemplate? · context.param type.canonical)
      = (((d.overrideIn? context).getD {}).groups type context.param).findSome? List.getLast? := by
  have rel := rel_overridesIn? loaded context
  generalize d.overrideIn? context = entry at rel
  generalize templates.overridesIn? context = set at rel
  cases rel with
  | some loaded => exact overrideTemplate?_of_load loaded h context.param
  | none =>
    -- the groups of an entry without templates are empty
    cases context.param <;> rfl

/-- The template for a type is the last one of the first group of the document that has any. -/
theorem lookup_of_ofDocument (loaded : ofDocument d = .ok templates) (h : type.Canonical)
    (context : Context) : templates.lookup type context
      = match (d.groups type context).findSome? List.getLast? with
        | some template => .ok template
        | none => .error ⟨type.canonical, context.callables.head?⟩ := by
  have overrides := overrideIn_of_ofDocument loaded h context
  have defaults := lookupLast?_byType (ofDocument_eq_ok_iff.1 loaded).2.1 h
  have found : ((templates.overridesIn? context).bind
      (overrideTemplate? · context.param type.canonical)).or
        (lookupLast? type.canonical templates.defaults)
          = (d.groups type context).findSome? List.getLast? := by
    unfold Document.groups
    rw [overrides, defaults, List.findSome?_append, List.findSome?_singleton]
  -- a lookup makes its answer of nothing but what is found
  let answer (found : Option String) : Except Missing String :=
    match found with
    | some template => .ok template
    | none => .error ⟨type.canonical, context.callables.head?⟩
  exact congrArg answer found

/-- The first of the groups that has a template has it in the end. -/
theorem findSome?_groups_eq_some_iff {context : Context} {template : String} :
    (d.groups type context).findSome? List.getLast? = some template ↔
      ∃ front group, d.Decides type context front group ∧ group.getLast? = some template := by
  rw [List.findSome?_eq_some_iff]
  simp only [List.getLast?_eq_none_iff]
  constructor
  · rintro ⟨front, group, back, split, last, empty⟩
    refine ⟨front, group, ⟨⟨back, split⟩, empty, ?_⟩, last⟩
    rintro rfl
    cases last
  · rintro ⟨front, group, ⟨⟨back, split⟩, empty, -⟩, last⟩
    exact ⟨front, group, back, split, last, empty⟩

theorem exists_mem_take_groups_iff {context : Context} {n : Nat} :
    (∃ group ∈ (d.groups type context).take n, group ≠ []) ↔
      ∃ front group, d.Decides type context front group ∧ front.length < n := by
  constructor
  · intro some_template
    -- the first group that has a template is among the first ones, so it is the one that decides
    obtain ⟨group, found⟩ : ∃ group,
        ((d.groups type context).take n).find? (· ≠ []) = some group := by
      rw [← Option.isSome_iff_exists, List.find?_isSome]
      simpa using some_template
    obtain ⟨some_template, front, back, split, empty⟩ := List.find?_eq_some_iff_append.1 found
    have within := congrArg List.length split
    rw [List.length_append, List.length_cons, List.length_take] at within
    refine ⟨front, group, ⟨⟨back ++ (d.groups type context).drop n, ?_⟩, ?_, ?_⟩, by omega⟩
    · rw [← List.cons_append, ← List.append_assoc, ← split, List.take_append_drop]
    · simpa using empty
    · simpa using some_template
  · rintro ⟨front, group, ⟨⟨back, split⟩, -, some_template⟩, within⟩
    refine ⟨group, ?_, some_template⟩
    rw [split, List.take_append, List.mem_append]
    refine .inr ?_
    obtain ⟨m, length⟩ := Nat.exists_eq_add_of_lt within
    rw [show n - front.length = m + 1 by omega, List.take_succ_cons]
    exact List.mem_cons_self

/-- An override names the parameter if one of the first two groups decides. -/
theorem hasOverride_of_ofDocument (loaded : ofDocument d = .ok templates) (h : type.Canonical)
    (context : Context) : templates.hasOverride type context = true ↔
      ∃ front group, d.Decides type context front group ∧ front.length < 2 := by
  have rel := rel_overridesIn? loaded context
  rw [← exists_mem_take_groups_iff]
  unfold Templates.hasOverride Document.groups
  generalize d.overrideIn? context = entry at rel
  generalize templates.overridesIn? context = set at rel
  cases rel with
  | none => cases context.param <;> simp [OverrideEntry.groups, OverrideEntry.typedTemplates,
      OverrideEntry.paramTemplates]
  | @some entry set loaded =>
    cases context.param with
    | none => simp [OverrideEntry.groups]
    | some param =>
      have params := OverrideEntry.paramTemplate?_of_load loaded h param
      simp [OverrideEntry.groups, params]

end

/-! ## Spellings -/

/-- Two keys read to one type. -/
def SameType (key key' : String) : Prop :=
  ∃ type, TypeExpr.read key = .ok type ∧ TypeExpr.read key' = .ok type

/-- Entries by type are the same but for the spelling of a key. -/
def RespelledKey (e e' : String × String) : Prop := SameType e.1 e'.1 ∧ e.2 = e'.2

/-- Entries for a parameter at a type are the same but for the spelling of the type. -/
structure TypedParamEntry.Respelled (e e' : TypedParamEntry) : Prop where
  name : e.name = e'.name
  type : SameType e.type e'.type
  template : e.template = e'.template

/-- Overrides are the same but for the spelling of their types, in the same order. -/
structure OverrideEntry.Respelled (entry entry' : OverrideEntry) : Prop where
  receiver : entry.receiver = entry'.receiver
  params : entry.params = entry'.params
  typedParams : List.Forall₂ TypedParamEntry.Respelled entry.typedParams entry'.typedParams
  types : List.Forall₂ RespelledKey entry.types entry'.types

/-- Documents are the same but for the spelling of their types, in the same order. -/
structure Document.Respelled (d d' : Document) : Prop where
  schemaVersion : d.schemaVersion = d'.schemaVersion
  defaults : List.Forall₂ RespelledKey d.defaults d'.defaults
  overrides : List.Forall₂ (fun e e' => e.1 = e'.1 ∧ e.2.Respelled e'.2) d.overrides d'.overrides

theorem SameType.canonicalKey_eq {key key' : String} (h : SameType key key') :
    canonicalKey key = canonicalKey key' := by
  obtain ⟨type, read, read'⟩ := h
  unfold canonicalKey
  rw [read, read']

theorem byType_of_respelled {entries entries' : List (String × String)}
    (h : List.Forall₂ RespelledKey entries entries') : byType entries = byType entries' := by
  refine mapM_eq_of_forall₂ (h.imp ?_)
  rintro ⟨expr, template⟩ ⟨expr', template'⟩ ⟨same, rfl⟩
  simp only [same.canonicalKey_eq]

theorem OverrideEntry.Respelled.load_eq {entry entry' : OverrideEntry}
    (h : entry.Respelled entry') : entry.load = entry'.load := by
  unfold load
  rw [byType_of_respelled h.types, h.receiver, h.params]
  congr 1
  refine mapM_eq_of_forall₂ (h.typedParams.imp ?_)
  intro e e' same
  simp only [same.name, same.type.canonicalKey_eq, same.template]

/-- The templates do not depend on how types are spelled. -/
theorem Document.Respelled.ofDocument_eq_ok {d d' : Document} {templates : Templates}
    (h : d.Respelled d') (made : ofDocument d = .ok templates) : ofDocument d' = .ok templates := by
  obtain ⟨known, defaults, sets, directory⟩ := ofDocument_eq_ok_iff.1 made
  refine ofDocument_eq_ok_iff.2 ⟨?_, ?_, ?_, directory⟩
  · rw [← h.schemaVersion, known]
  · rw [← byType_of_respelled h.defaults, defaults]
  · rw [← sets]
    symm
    refine mapM_eq_of_forall₂ (h.overrides.imp ?_)
    rintro ⟨callable, entry⟩ ⟨callable', entry'⟩ ⟨rfl, same⟩
    simp only [same.load_eq]

/-- **Lookup by type.** The templates that are loaded answer a lookup of a type with the last
template of the first group of the document that has any; there is no template exactly if no group
has one. An override names the parameter exactly if one of the first two groups, those for the
parameter, decides. Documents that spell their types in another way, in the same order, load the
same templates. -/
theorem lookup_by_type {text : String} {templates : Templates}
    (loaded : load text = .ok templates) :
    ∃ d, Document.read? text = some d ∧
      (∀ expr type, TypeExpr.read expr = .ok type → ∀ context,
        (∀ template, templates.lookup type context = .ok template ↔
          ∃ front group, d.Decides type context front group ∧ group.getLast? = some template) ∧
        (∀ missing, templates.lookup type context = .error missing ↔
          missing = ⟨type.canonical, context.callables.head?⟩ ∧
            ∀ group ∈ d.groups type context, group = []) ∧
        (templates.hasOverride type context = true ↔
          ∃ front group, d.Decides type context front group ∧ front.length < 2)) ∧
      ∀ text' d', Document.read? text' = some d' → d.Respelled d' → load text' = .ok templates := by
  obtain ⟨d, decoded, made⟩ := load_eq_ok_iff.1 loaded
  refine ⟨d, decoded, fun expr type read context => ?_, fun text' d' decoded' same => ?_⟩
  · have canonical := TypeExpr.canonical_of_read read
    have found := lookup_of_ofDocument made canonical context
    refine ⟨fun template => ?_, fun missing => ?_, hasOverride_of_ofDocument made canonical context⟩
    · rw [← findSome?_groups_eq_some_iff, found]
      cases (d.groups type context).findSome? List.getLast? <;> simp
    · have none_found : templates.lookup type context = .error missing ↔
          missing = ⟨type.canonical, context.callables.head?⟩ ∧
            (d.groups type context).findSome? List.getLast? = none := by
        rw [found]
        cases (d.groups type context).findSome? List.getLast? <;> simp [eq_comm]
      rw [none_found, List.findSome?_eq_none_iff]
      simp only [List.getLast?_eq_none_iff]
  · exact load_eq_ok_iff.2 ⟨d', decoded', same.ofDocument_eq_ok made⟩

/-- A document with a default for a type and a template for the type as the parameter `a` of `f`,
where the type is written as given. -/
def typedDocument (expr : String) : Document where
  defaults := [("A", "d")]
  overrides := [("f", { typedParams := [⟨"a", expr, "t"⟩] })]

/-- A text in which the type is written as a union. -/
def unionText : String :=
  "\x7b\"defaults\":\x7b\"A\":\"d\"\x7d,\"overrides\":\x7b\"f\":[null,\x7b\x7d,[[\"a\",\"Union[A,A]\",\"t\"]]]\x7d\x7d"

/-- A text in which the type is written as it is. -/
def plainText : String :=
  "\x7b\"defaults\":\x7b\"A\":\"d\"\x7d,\"overrides\":\x7b\"f\":[null,\x7b\x7d,[[\"a\",\"A\",\"t\"]]]\x7d\x7d"

/-- What such documents are loaded to. -/
def typedTemplates : Templates where
  defaults := [("A", "d")]
  overrides := [("f", ⟨none, [(("a", "A"), "t")], [], []⟩)]

theorem read_name : TypeExpr.read "A" = .ok (.named "A") := by
  have alone : TypeExpr.tokens "A" = [⟨.word "A", 0⟩] := by decide
  exact TypeExpr.read_of_word alone rfl

theorem read_union : TypeExpr.read "Union[A,A]" = .ok (.named "A") := by
  let ph : TypeExpr.Phrase := .union (.name "A" (by decide)) [.name "A" (by decide)]
  have spelled : TypeExpr.Spelled "Union[A,A]".toList ph.lexemes :=
    (TypeExpr.spelled_iff fun c => ph.stray_not_mem c).2 (by decide)
  exact TypeExpr.read_eq_ok_iff_exists_phrase.2 ⟨ph, spelled, rfl⟩

theorem ofDocument_typedDocument {expr : String} (read : TypeExpr.read expr = .ok (.named "A")) :
    ofDocument (typedDocument expr) = .ok typedTemplates := by
  have key : canonicalKey expr = .ok "A" := canonicalKey_eq_ok_iff.2 ⟨_, read, rfl⟩
  have plain : canonicalKey "A" = .ok "A" := canonicalKey_eq_ok_iff.2 ⟨_, read_name, rfl⟩
  have typed : byType [("A", "d")] = .ok [("A", "d")] := by
    unfold byType
    simp only [List.mapM_cons, List.mapM_nil, plain]
    rfl
  have entry : OverrideEntry.load { typedParams := [⟨"a", expr, "t"⟩] }
      = .ok ⟨none, [(("a", "A"), "t")], [], []⟩ := by
    unfold OverrideEntry.load
    simp only [List.mapM_cons, List.mapM_nil, key]
    rfl
  refine ofDocument_eq_ok_iff.2 ⟨rfl, typed, ?_, rfl⟩
  unfold typedDocument
  simp only [List.mapM_cons, List.mapM_nil, entry]
  rfl

set_option maxRecDepth 3000 in
/-- For the parameter, the template at its type comes before the default, also if the key is the
union of the type with itself. -/
theorem union_key_is_found :
    let context : Context := ⟨["g", "f"], some "a"⟩
    load unionText = .ok typedTemplates ∧
      TypeExpr.read "A" = .ok (.named "A") ∧
      typedTemplates.lookup (.named "A") context = .ok "t" ∧
      typedTemplates.hasOverride (.named "A") context = true ∧
      Document.read? plainText = some (typedDocument "A") ∧
      load plainText = .ok typedTemplates := by
  intro context
  have decoded : Document.read? unionText = some (typedDocument "Union[A,A]") := by cbv
  have decoded' : Document.read? plainText = some (typedDocument "A") := by cbv
  have loaded : load unionText = .ok typedTemplates :=
    load_eq_ok_iff.2 ⟨_, decoded, ofDocument_typedDocument read_union⟩
  obtain ⟨d, found, decides, respelled⟩ := lookup_by_type loaded
  obtain rfl := Option.some.inj (decoded.symm.trans found)
  have key := readsTo_iff.2 read_union
  have groups : (typedDocument "Union[A,A]").groups (.named "A") context
      = [] ++ ["t"] :: [[], [], templatesAt (.named "A") [("A", "d")]] := by
    show [List.map _ (List.filter _ [_]) ++ [], _, _, _] = _
    rw [List.filter_cons_of_pos (by simp [key])]
    rfl
  have first : (typedDocument "Union[A,A]").Decides (.named "A") context [] ["t"] :=
    ⟨⟨_, groups⟩, List.forall_mem_nil _, List.cons_ne_nil _ _⟩
  have same : (typedDocument "Union[A,A]").Respelled (typedDocument "A") := by
    refine ⟨rfl, .cons ⟨⟨_, read_name, read_name⟩, rfl⟩ .nil, .cons ⟨rfl, rfl, rfl, ?_, .nil⟩ .nil⟩
    exact .cons ⟨rfl, ⟨_, read_union, read_name⟩, rfl⟩ .nil
  obtain ⟨answered, -, overridden⟩ := decides "A" _ read_name context
  exact ⟨loaded, read_name, (answered "t").2 ⟨_, _, first, rfl⟩,
    overridden.2 ⟨_, _, first, by decide⟩, decoded', respelled _ _ decoded' same⟩

end SignatureAudit.Template
