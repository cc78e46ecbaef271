import SignatureAudit.Proofs.Audit.TypeUsages
import SignatureAudit.Proofs.Hierarchy.Substitution

/-!
# Subtypes are tried where supertypes are

What takes a value of a named type takes values of its subtypes: the parameter that a combination
has for the supertype is one for the subtype, if not the first one (`isSome_slot?_of_isNamedSubtype`).
So passing an object on tries all signatures that passing an object of a supertype tries
(`accepting_sublist`).
-/

namespace SignatureAudit

variable {rows : List TypeRow} {h : Hierarchy} {sub sup : String}

/-- A signature with a slot for a type has one for each subtype. -/
theorem Signature.isSome_slot?_of_isNamedSubtype (built : Hierarchy.ofRows rows = .ok h)
    (below : h.isNamedSubtype sub sup = true) {s : Signature}
    (found : (s.slot? h (.named sup)).isSome) : (s.slot? h (.named sub)).isSome := by
  obtain ⟨slot, found⟩ := Option.isSome_iff_exists.1 found
  obtain ⟨c, hc, arg, harg, -, fits⟩ := exists_arg_of_slot found
  exact isSome_slot?_of_arg hc harg (Hierarchy.isSome_fit?_of_isNamedSubtype built below fits)

namespace Audit

/-- Passing a variable of the type on tries these signatures, in order: something is done for each
of them, and nothing else is done. -/
def Tries (a : Audit) (names : NameSupply) (type : TypeExpr) (setup : List String)
    (var origin : String) (signatures tried : List Signature) : Prop :=
  ∃ attempts : List (Signature × Step),
    ((a.planUsages type setup var origin signatures).run names).actions = attempts.map (·.2) ∧
      attempts.map (·.1) = tried ∧
      ∀ attempt ∈ attempts, ∃ slot, attempt.1.slot? a.catalog.hierarchy type = some slot ∧
        a.Passes names type setup var origin attempt.1 slot attempt.2

theorem tries_accepting (a : Audit) (names : NameSupply) (type : TypeExpr) (setup : List String)
    (var origin : String) (signatures : List Signature) :
    a.Tries names type setup var origin signatures (a.accepting type signatures) :=
  a.actions_planUsages type setup var origin signatures (.refl names)

theorem accepting_sublist {a : Audit} (built : Hierarchy.ofRows rows = .ok a.catalog.hierarchy)
    (below : a.catalog.hierarchy.isNamedSubtype sub sup = true) (signatures : List Signature) :
    (a.accepting (.named sup) signatures).Sublist (a.accepting (.named sub) signatures) :=
  List.monotone_filter_right signatures fun _ found =>
    Signature.isSome_slot?_of_isNamedSubtype built below found

/-- **Subtypes go where supertypes go.** In every hierarchy that was built, what a named type fits
its subtypes fit, and directly what it fits directly. So in a catalog that was loaded, a signature
with a slot for a type has one for its subtypes, and passing a value of a subtype on tries all
signatures that passing a value of the type tries. -/
theorem subtypes_tried_where_supertypes_are :
    (∀ {rows : List TypeRow} {h : Hierarchy}, Hierarchy.ofRows rows = .ok h →
      ∀ {sub sup : String}, h.isNamedSubtype sub sup = true →
      ∀ (declared : TypeExpr) (fit : Fit), h.fit? declared (.named sup) = some fit →
        ∃ fit', h.fit? declared (.named sub) = some fit' ∧ (fit = .direct → fit' = .direct)) ∧
    ∀ {d : Catalog.Document} {c : Catalog}, Catalog.ofDocument d = .ok c →
      ∀ {sub sup : String}, c.hierarchy.isNamedSubtype sub sup = true →
      (∀ s : Signature, (s.slot? c.hierarchy (.named sup)).isSome →
        (s.slot? c.hierarchy (.named sub)).isSome) ∧
      ∀ a : Audit, a.catalog = c → ∀ (names names' : NameSupply) (setup setup' : List String)
          (var var' origin origin' : String) (signatures : List Signature),
        a.Tries names (.named sup) setup var origin signatures
          (a.accepting (.named sup) signatures) ∧
        a.Tries names' (.named sub) setup' var' origin' signatures
          (a.accepting (.named sub) signatures) ∧
        (a.accepting (.named sup) signatures).Sublist (a.accepting (.named sub) signatures) := by
  constructor
  · intro rows h built sub sup below declared fit fits
    exact Hierarchy.exists_fit?_of_isNamedSubtype built below fits
  · intro d c loaded sub sup below
    obtain ⟨built, -⟩ := Catalog.ofDocument_eq_ok_iff.1 loaded
    refine ⟨fun s => Signature.isSome_slot?_of_isNamedSubtype built below, ?_⟩
    rintro a rfl names names' setup setup' var var' origin origin' signatures
    exact ⟨a.tries_accepting .., a.tries_accepting .., accepting_sublist built below signatures⟩

/-- A document of executables, which are targets, and a function that links a target. -/
def linkDocument : Catalog.Document where
  functions := [{ name := "link", params := ["t: Target"] }]
  types := [{ name := "Executable", parent := some "Target" }, { name := "Target" }]

/-- The function of the document. -/
def link : Signature := oneParameter "link" "t" (.named "Target")

/-- The audit of the document, with a literal for executables. -/
def linkAudit : Audit where
  catalog := ⟨[⟨"link", none, [link]⟩], [⟨"Executable", some "Target", []⟩, ⟨"Target", none, []⟩],
    ⟨[("Executable", ["Executable", "Target"]), ("Target", ["Target"])]⟩⟩
  templates := ⟨[("Executable", "executable('e', 'e.c')")], [], none⟩
  options := { typeUsages := true }

theorem read_link_parameter :
    Parameter.read "t: Target" false = .ok ⟨"t", .named "Target", .positional⟩ := by
  have trimmed : Text.trim "t: Target" = "t: Target" := by decide
  have type : Text.trim " Target" = "Target" := by decide
  have cut : Text.cut? ":" "t: Target" = some ("t", " Target") := by decide
  have name : Text.trim "t" = "t" := by decide
  rw [← trimmed] at cut
  have alone : TypeExpr.tokens "Target" = [⟨.word "Target", 0⟩] := by decide
  have parsed : TypeExpr.read (Text.trim " Target") = .ok (.named "Target") := by
    rw [type, TypeExpr.read_of_word alone rfl]
  have read := Parameter.read_positional (by decide) cut (by decide) (by decide) parsed
  rw [name] at read
  exact read

theorem ofDocument_linkDocument : Catalog.ofDocument linkDocument = .ok linkAudit.catalog := by
  have built : Hierarchy.ofRows linkDocument.rows = .ok linkAudit.catalog.hierarchy := by
    rw [Hierarchy.ofRows_eq (by decide)]
    rfl
  have functions := callablesOf_oneParameter "link" [] (by decide) read_link_parameter
  exact Catalog.ofDocument_eq_ok_iff.2 ⟨built, functions, rfl, by decide⟩

/-- An executable is tried where a target is, and takes the place of one in an array. -/
theorem executables_tried_where_targets_are :
    let h := linkAudit.catalog.hierarchy
    Hierarchy.ofRows linkDocument.rows = .ok h ∧ h.isNamedSubtype "Executable" "Target" = true ∧
      h.fit? (.arrayOf (.named "Target")) (.named "Target") = some .element ∧
      (∃ fit, h.fit? (.arrayOf (.named "Target")) (.named "Executable") = some fit) ∧
      Catalog.ofDocument linkDocument = .ok linkAudit.catalog ∧
      (link.slot? h (.named "Target")).isSome ∧ (link.slot? h (.named "Executable")).isSome ∧
      linkAudit.accepting (.named "Target") linkAudit.receivers = [link] ∧
      ∃ tried, linkAudit.Tries (.ofSeed 0) (.named "Executable") ["obj = executable('e', 'e.c')"]
        "obj" "Executable" linkAudit.receivers tried ∧ [link].Sublist tried := by
  intro h
  have loaded := ofDocument_linkDocument
  have built := (Catalog.ofDocument_eq_ok_iff.1 loaded).1
  have below : h.isNamedSubtype "Executable" "Target" = true := by decide
  have element : h.fit? (.arrayOf (.named "Target")) (.named "Target") = some .element := by decide
  have slot : (link.slot? h (.named "Target")).isSome := by decide
  have accepted : linkAudit.accepting (.named "Target") linkAudit.receivers = [link] := by decide
  obtain ⟨fits, passed_on⟩ := subtypes_tried_where_supertypes_are
  obtain ⟨fit, fits, -⟩ := fits built below _ _ element
  obtain ⟨slots, tries⟩ := passed_on loaded below
  obtain ⟨-, tried, covers⟩ := tries linkAudit rfl (.ofSeed 0) (.ofSeed 0) []
    ["obj = executable('e', 'e.c')"] "obj" "obj" "Target" "Executable" linkAudit.receivers
  exact ⟨built, below, element, ⟨fit, fits⟩, loaded, slot, slots link slot, accepted, _, tried,
    accepted ▸ covers⟩

end Audit

end SignatureAudit
