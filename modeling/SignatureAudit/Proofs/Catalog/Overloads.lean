import SignatureAudit.Proofs.Catalog.Load
import SignatureAudit.Proofs.Signature.Declaration

/-!
# Overloads and splices

A catalog keeps the entries of its document: the callables of one receiver stand in the order in
which their names come first, and the overloads of each are what the entries of its name declare,
one for each entry, in the order of the document (`Gathers`). This holds of the loop that adds the
entries because it comes to the groups of their signatures (`callablesOf_eq`).

A parameter set means its text: spelling out every splice in an entry gives an entry that declares
the same (`CallableEntry.Declares.spelledOut`), since the declarations are read as one list, and
none of those that can be read is itself a splice. So a document with all splices spelled out is the
same catalog.
-/

namespace SignatureAudit

/-! ## The order of the names -/

/-- Distinct elements stand in the order of their first places. -/
theorem pairwise_idxOf_distinct {α : Type} [DecidableEq α] (l : List α) :
    (distinct l).Pairwise (l.idxOf · < l.idxOf ·) := by
  induction l with
  | nil => exact List.Pairwise.nil
  | cons a rest ih =>
    have later {b : α} (hb : b ∈ (distinct rest).filter (· ≠ a)) :
        (a :: rest).idxOf b = rest.idxOf b + 1 := by
      have other := of_decide_eq_true (List.mem_filter.1 hb).2
      exact List.idxOf_cons_ne rest (Ne.symm other)
    have split : distinct (a :: rest) = a :: (distinct rest).filter (· ≠ a) := rfl
    rw [split, List.pairwise_cons]
    constructor
    · intro b hb
      rw [later hb, List.idxOf_cons_self]
      exact Nat.succ_pos _
    · refine (ih.filter _).imp_of_mem fun {b c} hb hc less => ?_
      rw [later hb, later hc]
      exact Nat.succ_lt_succ less

namespace Catalog

variable {sets : List (String × List String)} {entry : CallableEntry} {receiver : Option String}
  {entries : List CallableEntry} {callables : List Callable} {params : List Parameter}
  {returns : TypeExpr}

/-- The callables of some entries with one receiver: their names are those of the entries, in the
order in which they first come, and the overloads of each are what the entries of its name declare,
one by one. -/
structure Gathers (receiver : Option String) (sets : List (String × List String))
    (entries : List CallableEntry) (callables : List Callable) : Prop where
  names : ∀ name, name ∈ callables.map (·.name) ↔ name ∈ entries.map (·.name)
  ordered : (callables.map (·.name)).Pairwise
    ((entries.map (·.name)).idxOf · < (entries.map (·.name)).idxOf ·)
  overloads : ∀ c ∈ callables, c.receiver = receiver ∧
    List.Forall₂ (fun entry s => entry.Declares sets s.params s.returns ∧ s.name = c.name ∧
      s.receiver = receiver) (entries.filter (·.name = c.name)) c.overloads

/-- What the entries add one by one is gathered. -/
theorem gathers_callablesOf (h : callablesOf receiver sets entries = .ok callables) :
    Gathers receiver sets entries callables := by
  -- the loop over the entries has grouped their signatures
  obtain ⟨signatures, ran, rfl⟩ := callablesOf_eq_ok_iff.1 h
  have named : signatures.map (·.name) = entries.map (·.name) :=
    map_of_mapM_eq_ok ran fun read => (signature_eq_ok_iff.1 read).2.1
  have grouped : (Callable.group receiver signatures).map (·.name)
      = distinct (entries.map (·.name)) := by rw [Callable.names_group, named]
  refine ⟨fun name => ?_, ?_, fun c hc => ?_⟩
  · rw [grouped, mem_distinct]
  · rw [grouped]
    exact pairwise_idxOf_distinct _
  · obtain ⟨name, -, rfl⟩ := Callable.mem_group_iff.1 hc
    refine ⟨rfl, ?_⟩
    have each := mapM_eq_ok_iff_forall₂.1 ran
    -- an entry and its signature have one name, so both are kept or none is
    have kept : List.Forall₂ (fun entry s => entry.signature receiver sets = .ok s)
        (entries.filter (·.name = name)) (signatures.filter (·.name = name)) := by
      refine List.rel_filter (fun entry s read => ?_) each
      simp [(signature_eq_ok_iff.1 read).2.1]
    have chosen : ∀ entry ∈ entries.filter (·.name = name), entry.name = name := fun entry hentry =>
      of_decide_eq_true (List.mem_filter.1 hentry).2
    refine ((List.forall₂_and_left _ _).2 ⟨chosen, kept⟩).imp ?_
    rintro entry s ⟨same, read⟩
    obtain ⟨declares, signed, received⟩ := signature_eq_ok_iff.1 read
    exact ⟨declares, signed.trans same, received⟩

/-! ## Splices -/

/-- The entry with the declarations of their sets in the places of the splices. -/
def CallableEntry.spelledOut (sets : List (String × List String)) (entry : CallableEntry) :
    CallableEntry :=
  { entry with params := entry.params.flatMap (declarationsOf sets) }

/-- The type with all splices of its methods spelled out. -/
def TypeEntry.spelledOut (sets : List (String × List String)) (t : TypeEntry) : TypeEntry :=
  { t with methods := t.methods.map (·.spelledOut sets) }

/-- The document with all splices spelled out, and with any parameter sets. -/
def Document.spelledOut (d : Document) (sets : List (String × List String)) : Document :=
  { d with
    paramSets := sets
    functions := d.functions.map (·.spelledOut d.paramSets)
    types := d.types.map (·.spelledOut d.paramSets) }

/-- A text that declares a parameter starts with a star or a name, not with the dots of a splice. -/
theorem spliced?_of_declares {p : Parameter} {text : String} (h : p.Declares text) :
    spliced? text = none := by
  obtain ⟨c, cs, whole, first⟩ := h.exists_first
  rw [spliced?]
  cases dotted : Text.dropFront? ".." (Text.trim text) with
  | none => rfl
  | some set =>
    have dots : c :: cs = '.' :: '.' :: set.toList := by
      rw [← whole, Text.dropFront?_eq_some_iff.1 dotted]
      rfl
    obtain rfl : c = '.' := (List.cons.inj dots).1
    rcases first with star | word
    · cases star
    · cases word

/-- Nothing that an entry declares is a splice. -/
theorem CallableEntry.Declares.spliced? (h : entry.Declares sets params returns) :
    ∀ item ∈ (entry.spelledOut sets).params, Catalog.spliced? item = none := by
  have each {ps : List Parameter} {texts : List String}
      (declares : List.Forall₂ Parameter.Declares ps texts) :
      ∀ item ∈ texts, Catalog.spliced? item = none := by
    induction declares with
    | nil => exact List.forall_mem_nil _
    | cons first _ ih => exact List.forall_mem_cons.2 ⟨spliced?_of_declares first, ih⟩
  exact each (Parameter.readAll_eq_ok_iff.1 h.params).2

/-- What an entry declares, it declares with its splices spelled out, whatever sets there are. -/
theorem CallableEntry.Declares.spelledOut (h : entry.Declares sets params returns)
    (others : List (String × List String)) :
    (entry.spelledOut sets).Declares others params returns := by
  have plain : (entry.spelledOut sets).params.flatMap (declarationsOf others)
      = (entry.spelledOut sets).params := by
    rw [List.flatMap_congr (g := fun item => [item]) fun item hitem => ?_]
    · exact List.flatMap_singleton' _
    · rw [declarationsOf, h.spliced? item hitem]
  refine ⟨fun item hitem set hset => ?_, ?_, h.returns⟩
  · rw [h.spliced? item hitem] at hset
    cases hset
  · rw [plain]
    exact h.params

theorem signature_spelledOut {s : Signature} (h : entry.signature receiver sets = .ok s)
    (others : List (String × List String)) :
    (entry.spelledOut sets).signature receiver others = .ok s := by
  obtain ⟨declares, same⟩ := signature_eq_ok_iff.1 h
  exact signature_eq_ok_iff.2 ⟨declares.spelledOut others, same⟩

theorem callablesOf_spelledOut (h : callablesOf receiver sets entries = .ok callables)
    (others : List (String × List String)) :
    callablesOf receiver others (entries.map (·.spelledOut sets)) = .ok callables := by
  obtain ⟨signatures, ran, rfl⟩ := callablesOf_eq_ok_iff.1 h
  refine callablesOf_eq_ok_iff.2 ⟨signatures, ?_, rfl⟩
  rw [mapM_eq_ok_iff_forall₂] at ran ⊢
  exact List.forall₂_map_left_iff.2 (ran.imp fun entry s read => signature_spelledOut read others)

theorem info_spelledOut {t : TypeEntry} {info : TypeInfo} (h : t.info sets = .ok info)
    (others : List (String × List String)) : (t.spelledOut sets).info others = .ok info := by
  obtain ⟨named, parented, ran⟩ := info_eq_ok_iff.1 h
  exact info_eq_ok_iff.2 ⟨named, parented, callablesOf_spelledOut ran others⟩

/-! ## Documents -/

variable {d : Document} {c : Catalog}

/-- Spelling the splices out does not change the catalog. -/
theorem ofDocument_spelledOut (h : ofDocument d = .ok c) (sets : List (String × List String)) :
    ofDocument (d.spelledOut sets) = .ok c := by
  obtain ⟨built, ran, listed, checked⟩ := ofDocument_eq_ok_iff.1 h
  have rows : (d.spelledOut sets).rows = d.rows := by
    simp only [Document.rows, Document.spelledOut, List.map_map]
    rfl
  rw [← rows] at built
  refine ofDocument_eq_ok_iff.2 ⟨built, callablesOf_spelledOut ran sets, ?_, checked⟩
  rw [mapM_eq_ok_iff_forall₂] at listed ⊢
  exact List.forall₂_map_left_iff.2 (listed.imp fun t info read => info_spelledOut read sets)

/-- A type keeps the name and the parent of its entry. -/
theorem gathers_types (listed : d.types.mapM (·.info d.paramSets) = .ok c.types) :
    List.Forall₂ (fun t info => info.name = t.name ∧ info.parent = t.parent ∧
      Gathers (some t.name) d.paramSets t.methods info.methods) d.types c.types :=
  (mapM_eq_ok_iff_forall₂.1 listed).imp fun _ _ read =>
    have ⟨named, parented, ran⟩ := info_eq_ok_iff.1 read
    ⟨named, parented, gathers_callablesOf ran⟩

/-- An entry declares a well-formed list of parameters, one by one, behind its splices as well. -/
theorem CallableEntry.Declares.wellFormed (h : entry.Declares sets params returns) :
    Parameter.WellFormed params ∧
      List.Forall₂ Parameter.Declares params (entry.spelledOut sets).params :=
  Parameter.readAll_eq_ok_iff.1 h.params

/-- A loaded document has entries that can be read, so spelling them out leaves no splice. -/
theorem unspliced_spelledOut (h : ofDocument d = .ok c) (sets : List (String × List String)) :
    ∀ entry ∈ (d.spelledOut sets).entries, ∀ item ∈ entry.params, spliced? item = none := by
  have spelled : (d.spelledOut sets).entries = d.entries.map (·.spelledOut d.paramSets) := by
    simp only [Document.entries, Document.spelledOut, List.map_append, List.map_flatMap,
      List.flatMap_map, TypeEntry.spelledOut]
  rw [spelled]
  refine List.forall_mem_map.2 fun entry hentry item hitem => ?_
  obtain ⟨params, returns, declares⟩ := (exists_ofDocument_iff.1 ⟨c, h⟩).readable entry hentry
  exact declares.spliced? item hitem

/-- **A catalog keeps all overloads of its document, and a splice means the text of its set.** The
functions and the methods of each type are gathered from their entries. The parameters of an entry
are declared by its spelled-out items, and whether they are passed by position is judged in the
whole list. With all splices spelled out the document is the same catalog, whatever sets it has. -/
theorem load_gathers_spelledOut {text : String} (decoded : Document.read? text = some d)
    (loaded : load text = .ok c) :
    Gathers none d.paramSets d.functions c.functions ∧
    List.Forall₂ (fun t info => info.name = t.name ∧ info.parent = t.parent ∧
      Gathers (some t.name) d.paramSets t.methods info.methods) d.types c.types ∧
    (∀ entry ∈ d.entries, ∀ params returns, entry.Declares d.paramSets params returns →
      Parameter.WellFormed params ∧
        List.Forall₂ Parameter.Declares params (entry.spelledOut d.paramSets).params) ∧
    ∀ sets, ofDocument (d.spelledOut sets) = .ok c ∧
      (∀ entry ∈ (d.spelledOut sets).entries, ∀ item ∈ entry.params, spliced? item = none) ∧
      ∀ other, Document.read? other = some (d.spelledOut sets) → load other = .ok c := by
  rw [load, decoded] at loaded
  obtain ⟨-, ran, listed, -⟩ := ofDocument_eq_ok_iff.1 loaded
  refine ⟨gathers_callablesOf ran, gathers_types listed,
    fun entry _ params returns declares => declares.wellFormed, fun sets => ?_⟩
  have same := ofDocument_spelledOut loaded sets
  refine ⟨same, unspliced_spelledOut loaded sets, fun other read => ?_⟩
  rw [load, read]
  exact same

/-- A text of two overloads of `f` with one of `g` between them; the first splices a set in that
starts with a variadic parameter. -/
def interleavedText : String :=
  "\x7b\"param_sets\":\x7b\"p\":[\"*a:Any\",\"b:Any\"]\x7d,"
    ++ "\"functions\":[[\"f\",[\"x:Any\",\"..p\",\"c:Any\"]],[\"g\"],[\"f\"]]\x7d"

/-- The document of the text. -/
def interleavedDocument : Document where
  paramSets := [("p", ["*a:Any", "b:Any"])]
  functions := [{ name := "f", params := ["x:Any", "..p", "c:Any"] }, { name := "g" },
    { name := "f" }]

/-- The parameters of the first entry: the one behind the splice is passed by keyword. -/
def interleavedParams : List Parameter :=
  [⟨"x", .any, .positional⟩, ⟨"a", .any, .variadic⟩, ⟨"b", .any, .keyword false⟩,
    ⟨"c", .any, .keyword false⟩]

/-- What the text is loaded to. -/
def interleavedCatalog : Catalog where
  functions := [
    ⟨"f", none, [⟨"f", none, interleavedParams, .none⟩, ⟨"f", none, [], .none⟩]⟩,
    ⟨"g", none, [⟨"g", none, [], .none⟩]⟩]
  types := []
  hierarchy := ⟨[]⟩

theorem declares_interleavedParams : CallableEntry.Declares [("p", ["*a:Any", "b:Any"])]
    { name := "f", params := ["x:Any", "..p", "c:Any"] } interleavedParams .none := by
  have spread : ["x:Any", "..p", "c:Any"].flatMap (declarationsOf [("p", ["*a:Any", "b:Any"])])
      = ["x:Any", "*a:Any", "b:Any", "c:Any"] := by decide
  have read := TypeExpr.read_any
  refine ⟨by decide, ?_, TypeExpr.read_none⟩
  rw [spread, Parameter.readAll_eq_ok_iff_arranged]
  constructor
  · refine .cons ?_ (.cons ?_ (.cons ?_ (.cons ?_ .nil)))
    all_goals exact ⟨"", "", "", "Any", "", by decide, by decide, by decide, read⟩
  · simp [interleavedParams, Parameter.arranged_cons_iff, Parameter.arranged_nil, Parameter.Allowed]

theorem ofDocument_interleaved : ofDocument interleavedDocument = .ok interleavedCatalog := by
  have plain (name : String) : CallableEntry.Declares interleavedDocument.paramSets
      { name := name } [] .none :=
    ⟨fun item hitem => absurd hitem List.not_mem_nil, rfl, TypeExpr.read_none⟩
  have built : Hierarchy.ofRows interleavedDocument.rows = .ok ⟨[]⟩ := by
    rw [Hierarchy.ofRows_eq (by decide)]
    rfl
  refine ofDocument_eq_ok_iff.2 ⟨built, ?_, rfl, by decide⟩
  refine callablesOf_eq_ok_iff.2 ⟨[⟨"f", none, interleavedParams, .none⟩, ⟨"g", none, [], .none⟩,
    ⟨"f", none, [], .none⟩], ?_, by decide⟩
  rw [mapM_eq_ok_iff_forall₂]
  refine .cons ?_ (.cons ?_ (.cons ?_ .nil))
  · exact signature_eq_ok_iff.2 ⟨declares_interleavedParams, rfl, rfl⟩
  · exact signature_eq_ok_iff.2 ⟨plain "g", rfl, rfl⟩
  · exact signature_eq_ok_iff.2 ⟨plain "f", rfl, rfl⟩

set_option maxRecDepth 2000 in
/-- The text is loaded: the overloads of `f` are its first and its last entry, and without the
splice it is the same catalog. -/
theorem interleaved_is_gathered : Document.read? interleavedText = some interleavedDocument ∧
    load interleavedText = .ok interleavedCatalog ∧
    Gathers none interleavedDocument.paramSets interleavedDocument.functions
      interleavedCatalog.functions ∧
    ((interleavedDocument.spelledOut []).functions.map (·.params)
      = [["x:Any", "*a:Any", "b:Any", "c:Any"], [], []]) ∧
    ofDocument (interleavedDocument.spelledOut []) = .ok interleavedCatalog := by
  have decoded : Document.read? interleavedText = some interleavedDocument := by cbv
  have loaded : load interleavedText = .ok interleavedCatalog := by
    rw [load, decoded]
    exact ofDocument_interleaved
  obtain ⟨gathered, -, -, spelled⟩ := load_gathers_spelledOut decoded loaded
  exact ⟨decoded, loaded, gathered, by decide, (spelled []).1⟩

end Catalog

end SignatureAudit
