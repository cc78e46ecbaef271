import SignatureAudit.Proofs.Audit.Coverage
import SignatureAudit.Proofs.Call.Slot
import SignatureAudit.Proofs.Catalog.Load
import SignatureAudit.Proofs.Signature.Parameter

/-!
# Passing the object of a type on

With usages, the object of an audited type is passed to every overload that has a slot for the type
(`actions_planUsages`); where the receiver or an argument has no template, there is a notice instead
(`Audit.Passes`).

The slots are looked for with the *named* type that the descriptor has, whatever its name means in
the notation. The two agree but for the descriptor `Array`, whose name means the untyped array
(`type_of_owner`): its object is passed to nothing that takes arrays (`array_is_passed_to_nothing`).
-/

namespace SignatureAudit

open Session (textOf)

/-- Whether something is done in a step. -/
def Step.acts : Step → Bool
  | .checkpoint => false
  | .notice _ | .probe _ => true

/-- What is done in a plan, in order. -/
def Plan.actions {α : Type} (p : Plan α) : List Step := p.steps.filter Step.acts

/-- The step that an event comes from. -/
def Event.step : Event → Step
  | .notice text => .notice text
  | .tried t _ => .probe t.probe

namespace Planning

variable {α β : Type}

theorem run_take_bind (step : Step) (f : Unit → Planning β) (n : NameSupply) :
    (take step >>= f).run n = .step step fun _ => (f ()).run n := rfl

theorem run_draw_bind (x : Naming α) (f : α → Planning β) (n : NameSupply) :
    ((x : Planning α) >>= f).run n = (f (x.run n).1).run (x.run n).2 := rfl

end Planning

namespace Audit

/-! ## Passing a variable on -/

section

variable (a : Audit)

/-- The literal that the receiver of a signature needs, if there is none. -/
def missingReceiver? (s : Signature) : Option Template.Missing :=
  match s.receiver with
  | none => none
  | some receiver =>
    match a.templates.receiverTemplate? s.id with
    | some _ => none
    | none =>
      match a.templates.lookup (.named receiver) {} with
      | .ok _ => none
      | .error missing => some missing

/-- How a signature is called that a value is passed to. -/
def calleeOf (s : Signature) : CallForm :=
  match s.receiver with
  | none => CallForm.function s
  | some _ => CallForm.method s receiverVariable

/-- What comes of passing a variable to a slot of a signature: a notice if a literal is missing for
the receiver or if the call cannot be rendered, and else a probe with the setup of the variable, the
line of the receiver and the lines of the call. -/
def Passes (names : NameSupply) (type : TypeExpr) (setup : List String) (var origin : String)
    (s : Signature) (slot : Slot) (step : Step) : Prop :=
  match a.missingReceiver? s with
  | some missing => step = .notice (s.id ++ ": " ++ missing.message)
  | none =>
    let form := (calleeOf s).bind slot.param (passed var slot.fit)
    let description := a.describe s.id slot.combination ++ " with " ++ type.canonical ++ " from "
      ++ origin ++ " as '" ++ slot.param ++ "'"
    match form.fault? a.templates slot.combination with
    | some fault => step = .notice (description ++ ": " ++ fault.message)
    | none => ∃ n receiver call, names.Later n ∧
        (runOn (a.calleeForm s) n).1 = .ok (receiver, calleeOf s) ∧
        a.CallLines names form slot.combination none false call ∧
        step = .probe { description, setup := setup ++ receiver, call }

theorem run_calleeForm (s : Signature) (n : NameSupply) :
    (runOn (a.calleeForm s) n).1.map (·.2)
      = match a.missingReceiver? s with
        | some missing => .error missing
        | none => .ok (calleeOf s) := by
  rw [calleeForm, missingReceiver?, calleeOf]
  cases s.receiver with
  | none => rfl
  | some receiver =>
    simp only [Templates.receiver?, Templates.resolve]
    cases a.templates.receiverTemplate? s.id with
    | some template => rfl
    | none => cases a.templates.lookup (.named receiver) {} <;> rfl

variable {names : NameSupply} (type : TypeExpr) (setup : List String) (var origin : String)

theorem Passes.acts {a : Audit} {type : TypeExpr} {setup : List String} {var origin : String}
    {s : Signature} {slot : Slot} {step : Step}
    (h : a.Passes names type setup var origin s slot step) : step.acts = true := by
  rw [Passes] at h
  split at h
  · rw [h]
    rfl
  · simp only at h
    split at h
    · rw [h]
      rfl
    · obtain ⟨n, receiver, call, -, -, -, rfl⟩ := h
      rfl

theorem passes_slotStep {n : NameSupply} (later : names.Later n) (s : Signature) (slot : Slot) :
    a.Passes names type setup var origin s slot
      ((a.slotStep type setup var origin s slot).run n).1 := by
  have callee := a.run_calleeForm s n
  have later' := later.trans ((a.draws_calleeForm s).later n)
  rw [runOn] at callee
  rw [Passes, slotStep, Naming.run_bind]
  generalize drawn : (a.calleeForm s).run.run n = r at callee later'
  obtain ⟨answer, n'⟩ := r
  cases lacks : a.missingReceiver? s with
  | some missing =>
    rw [lacks] at callee
    cases answer with
    | error found =>
      rw [Except.error.inj callee]
      rfl
    | ok found => cases callee
  | none =>
    rw [lacks] at callee
    cases answer with
    | error missing => cases callee
    | ok found =>
      obtain ⟨receiver, form⟩ := found
      obtain rfl : form = calleeOf s := Except.ok.inj callee
      simp only
      generalize hform : (calleeOf s).bind slot.param (passed var slot.fit) = form
      cases hfault : form.fault? a.templates slot.combination with
      | some fault =>
        have failed := CallForm.render_fault hfault none false n'
        rw [runOn] at failed
        rw [Naming.run_bind, failed]
        rfl
      | none =>
        obtain ⟨call, rendered⟩ := CallForm.exists_render hfault none false n'
        refine ⟨n, receiver, call, later, ?_, ⟨n', later', rendered⟩, ?_⟩
        · rw [runOn, drawn]
        · rw [runOn] at rendered
          rw [Naming.run_bind, rendered]
          rfl

/-- The overloads that a value of a type can be passed to. -/
def accepting (a : Audit) (type : TypeExpr) (signatures : List Signature) : List Signature :=
  signatures.filter fun s => (s.slot? a.catalog.hierarchy type).isSome

/-- Something is done for each signature that has a slot, and for no other. -/
theorem actions_planUsages (signatures : List Signature) {n : NameSupply} (later : names.Later n) :
    ∃ attempts : List (Signature × Step),
      ((a.planUsages type setup var origin signatures).run n).actions = attempts.map (·.2) ∧
      attempts.map (·.1) = a.accepting type signatures ∧
      ∀ attempt ∈ attempts, ∃ slot, attempt.1.slot? a.catalog.hierarchy type = some slot ∧
        a.Passes names type setup var origin attempt.1 slot attempt.2 := by
  induction signatures generalizing n with
  | nil => exact ⟨[], rfl, rfl, fun attempt among => by cases among⟩
  | cons s rest ih =>
    rw [planUsages, accepting, List.filter_cons]
    cases found : s.slot? a.catalog.hierarchy type with
    | none =>
      -- a signature without a slot leaves a checkpoint only, which is no action
      obtain ⟨attempts, steps, signatures, passes⟩ := ih later
      exact ⟨attempts, steps, signatures, passes⟩
    | some slot =>
      let step := (a.slotStep type setup var origin s slot).run n
      have later' : names.Later step.2 := later.trans ((a.draws_slotStep ..).later n)
      have passes_first : a.Passes names type setup var origin s slot step.1 :=
        a.passes_slotStep type setup var origin later s slot
      obtain ⟨attempts, steps, signatures, passes⟩ := ih later'
      refine ⟨(s, step.1) :: attempts, ?_, ?_, ?_⟩
      · have acts : step.1.acts = true := passes_first.acts
        rw [List.map_cons, ← steps]
        show (Step.checkpoint :: step.1 ::
          ((a.planUsages type setup var origin rest).run step.2).steps).filter Step.acts = _
        rw [List.filter_cons_of_neg Bool.false_ne_true, List.filter_cons_of_pos acts]
        rfl
      · rw [List.map_cons, signatures]
        rfl
      · exact List.forall_mem_cons.2 ⟨⟨slot, found, passes_first⟩, passes⟩

end

/-! ## The object of a type -/

/-- The type that a descriptor stands for is the one of its name, but for the untyped array. -/
theorem type_of_owner {c : Catalog} {t : TypeInfo} {T : TypeExpr}
    (parsed : TypeExpr.read t.name = .ok T) (owner : c.owner? T = some t) :
    T = .named t.name ∨ t.name = "Array" ∧ T = .array := by
  have named {name : String} (found : c.type? name = some t) : t.name = name := by
    rw [Catalog.type?] at found
    have same := List.find?_some found
    exact eq_of_beq same
  cases T with
  | named name => exact .inl (by rw [named owner])
  | array => exact .inr ⟨named owner, rfl⟩
  | arrayOf elem =>
    -- the word `Array` alone means no array of something
    have alone : TypeExpr.tokens "Array" = [⟨.word "Array", 0⟩] := by decide
    rw [named owner, TypeExpr.read_of_word alone rfl] at parsed
    cases parsed
  | union arms => cases owner
  | any => cases owner
  | none => cases owner

/-- A type that has a default literal is planned as its methods and then as its usages. -/
theorem actions_planType (a : Audit) (used : a.options.typeUsages = true) (t : TypeInfo)
    (default : a.templates.hasDefault (.named t.name) = true) (names : NameSupply) :
    ∃ object n, runOn (a.templates.resolve (.named t.name) {}) names = (.ok object, n) ∧
      let methods := (a.planMethods t.name object (a.catalog.methodsOf t.name)).run n
      ((a.planType t).run names).actions = methods.actions
        ++ ((a.planUsages (.named t.name) [assign objectVariable object] objectVariable t.name
          a.receivers).run methods.value.2).actions := by
  have resolved := a.run_resolve_default (.named t.name) names
  rw [default] at resolved
  cases ran : runOn (a.templates.resolve (.named t.name) {}) names with
  | mk answer n =>
    rw [ran] at resolved
    cases answer with
    | error missing => cases resolved
    | ok object =>
      refine ⟨object, n, rfl, ?_⟩
      intro methods
      rw [runOn] at ran
      rw [planType, Plan.actions, Planning.run_take_bind, Planning.run_draw_bind, ran]
      simp only
      rw [StateT.run_bind, Plan.steps, Plan.steps_bind, used, if_pos rfl]
      rw [List.filter_cons_of_neg Bool.false_ne_true, List.filter_append]
      rfl

/-- What an event comes from is what was done. -/
theorem map_step_eq {text : String} {steps : List Step} {events : List Event}
    (same : events.map Event.entry = entriesOf text steps) :
    events.map Event.step = steps.filter Step.acts := by
  induction steps generalizing text events with
  | nil =>
    obtain rfl : events = [] := List.map_eq_nil_iff.1 same
    rfl
  | cons step rest ih =>
    cases step with
    | checkpoint => exact ih same
    | notice note =>
      obtain ⟨event, others, rfl, first, more⟩ := List.map_eq_cons_iff.1 same
      rw [List.map_cons, ih more]
      cases event with
      | notice text => rw [Entry.notice.inj first]; rfl
      | tried t e => cases first
    | probe p =>
      obtain ⟨event, others, rfl, first, more⟩ := List.map_eq_cons_iff.1 same
      rw [List.map_cons, ih more]
      cases event with
      | notice text => cases first
      | tried t e => rw [Entry.trial.inj first]; rfl

theorem accepting_eq_iff (a : Audit) (S T : TypeExpr) (signatures : List Signature) :
    a.accepting S signatures = a.accepting T signatures ↔ ∀ r ∈ signatures,
      (r.slot? a.catalog.hierarchy S).isSome = (r.slot? a.catalog.hierarchy T).isSome := by
  constructor
  · intro same r among
    have both : r ∈ a.accepting S signatures ↔ r ∈ a.accepting T signatures := by rw [same]
    rw [accepting, accepting, List.mem_filter, List.mem_filter] at both
    rw [Bool.eq_iff_iff]
    exact ⟨fun h => (both.1 ⟨among, h⟩).2, fun h => (both.2 ⟨among, h⟩).2⟩
  · exact List.filter_congr

/-- **The object of a type is passed to what accepts the named type.** Take the run for a type that
has a default literal and a descriptor of its own. Behind what it does for the methods of the type,
it passes the object to the overloads that have a slot for the named type, or says which literal is
missing. These are the overloads with a slot for the type that the name means, but for the untyped
array: they are if no overload has a slot for one of the untyped array and the named type `Array`
only. -/
theorem type_usages_as_named {tool : Tool} (keeps : tool.KeepsBuildFile) (ends : tool.Ends)
    (quiet : tool.Quiet) {s : Session} (going : s.interrupted = false) {start : String}
    (readable : textOf s.tree = .ok start) (a : Audit) (used : a.options.typeUsages = true)
    {t : TypeInfo} {T : TypeExpr} (parsed : TypeExpr.read t.name = .ok T)
    (owner : a.catalog.owner? T = some t) (default : a.templates.hasDefault T = true)
    (names : NameSupply) :
    let ended := a.run tool names [t] [] s
    ended.1 = .ok () ∧ ∃ (events : List Event) (object : String) (n : NameSupply)
      (attempts : List (Signature × Step)),
      Follows tool events none { session := s, names } ended.2 ∧
      runOn (a.templates.resolve (.named t.name) {}) names = (.ok object, n) ∧
      let methods := (a.planMethods t.name object (a.catalog.methodsOf t.name)).run n
      events.map Event.step = methods.actions ++ attempts.map (·.2) ∧
      attempts.map (·.1) = a.accepting (.named t.name) a.receivers ∧
      (∀ attempt ∈ attempts, ∃ slot,
        attempt.1.slot? a.catalog.hierarchy (.named t.name) = some slot ∧
        a.Passes methods.value.2 (.named t.name) [assign objectVariable object] objectVariable
          t.name attempt.1 slot attempt.2) ∧
      (attempts.map (·.1) = a.accepting T a.receivers ↔
        (T = .array → ∀ r ∈ a.receivers, (r.slot? a.catalog.hierarchy (.named "Array")).isSome
          = (r.slot? a.catalog.hierarchy .array).isSome)) := by
  intro ended
  obtain ⟨ok, events, same, follows⟩ := run_whole keeps ends quiet going readable a names [t] []
  have meant := type_of_owner parsed owner
  -- literals go by the text of a type, which is the same for the named type and the untyped array
  have default' : a.templates.hasDefault (.named t.name) = true := by
    rcases meant with rfl | ⟨name, rfl⟩
    · exact default
    · rw [name]
      exact default
  obtain ⟨object, n, resolved, planned⟩ := actions_planType a used t default' names
  obtain ⟨attempts, steps, signatures, passes⟩ := a.actions_planUsages (.named t.name)
    [assign objectVariable object] objectVariable t.name a.receivers
    (.refl ((a.planMethods t.name object (a.catalog.methodsOf t.name)).run n).value.2)
  refine ⟨ok, events, object, n, attempts, follows, resolved, ?_, signatures, passes, ?_⟩
  · have single : a.entries start names [t] [] = entriesOf start ((a.planType t).run names).steps :=
      List.append_nil _
    rw [single] at same
    rw [map_step_eq same, ← steps]
    exact planned
  · -- where the type is the named one there is nothing to compare
    rw [signatures, accepting_eq_iff]
    rcases meant with rfl | ⟨name, rfl⟩
    · constructor
      · intro _ is_array
        cases is_array
      · exact fun _ _ _ => rfl
    · rw [name]
      exact ⟨fun h _ => h, fun h => h rfl⟩

/-- A function of one parameter. -/
def oneParameter (name param : String) (type : TypeExpr) : Signature :=
  ⟨name, none, [⟨param, type, .positional⟩], .none⟩

/-- What an entry of one declaration, which is not spliced in, makes a catalog of. -/
theorem callablesOf_oneParameter {text param : String} {type : TypeExpr} (name : String)
    (sets : List (String × List String)) (unspliced : Catalog.spliced? text = none)
    (read : Parameter.read text false = .ok ⟨param, type, .positional⟩) :
    Catalog.callablesOf none sets [{ name := name, params := [text] }]
      = .ok [⟨name, none, [oneParameter name param type]⟩] := by
  have params : Parameter.readAll false [text] = .ok [⟨param, type, .positional⟩] := by
    rw [Parameter.readAll, read]
    rfl
  have itself : [text].flatMap (Catalog.declarationsOf sets) = [text] := by
    rw [List.flatMap_singleton, Catalog.declarationsOf, unspliced]
  have signature : Catalog.CallableEntry.signature { name := name, params := [text] } none sets
      = .ok (oneParameter name param type) := by
    refine Catalog.signature_eq_ok_iff.2 ⟨⟨?_, itself.symm ▸ params, TypeExpr.read_none⟩, rfl, rfl⟩
    refine List.forall_mem_singleton.2 fun set splices => ?_
    rw [unspliced] at splices
    cases splices
  have alone : distinct [name] = [name] := distinct_of_nodup (List.nodup_singleton name)
  have grouped : Callable.group none [oneParameter name param type]
      = [⟨name, none, [oneParameter name param type]⟩] := by
    simp [Callable.group, oneParameter, alone]
  rw [Catalog.callablesOf_eq, List.mapM_cons, signature]
  exact congrArg Except.ok grouped

/-- An audit of a type without methods and of a function that takes it, with usages. -/
def oneTypeAudit (type : TypeInfo) (taker : Signature) (literal : String) : Audit where
  catalog := ⟨[⟨taker.name, none, [taker]⟩], [type], ⟨[(type.name, [type.name])]⟩⟩
  templates := ⟨[(type.name, literal)], [], none⟩
  options := { typeUsages := true }

theorem number_is_passed_to_its_taker :
    let taker := oneParameter "half" "n" (.named "Number")
    let a := oneTypeAudit ⟨"Number", none, []⟩ taker "1"
    Session.quietTool.KeepsBuildFile ∧ Session.quietTool.Ends ∧ Session.quietTool.Quiet ∧
      oneLineProject.interrupted = false ∧ textOf oneLineProject.tree = .ok "x = 1\n" ∧
      a.options.typeUsages = true ∧ TypeExpr.read "Number" = .ok (.named "Number") ∧
      a.catalog.owner? (.named "Number") = some ⟨"Number", none, []⟩ ∧
      a.templates.hasDefault (.named "Number") = true ∧
      a.accepting (.named "Number") a.receivers = [taker] ∧
      let ended := a.run Session.quietTool (.ofSeed 0) [⟨"Number", none, []⟩] [] oneLineProject
      ended.1 = .ok () ∧ ∃ (events : List Event) (attempts : List (Signature × Step)),
        Follows Session.quietTool events none { session := oneLineProject, names := .ofSeed 0 }
          ended.2 ∧
        events.map Event.step = attempts.map (·.2) ∧ attempts.map (·.1) = [taker] := by
  intro taker a
  have ends := Session.ends_quietTool
  have readable := textOf_oneLineProject
  have accepted : a.accepting (.named "Number") a.receivers = [taker] := by decide
  refine ⟨fun _ _ => rfl, ends, fun _ _ => rfl, rfl, readable, rfl, TypeExpr.read_number, by decide,
    by decide, accepted, ?_⟩
  obtain ⟨ok, events, object, n, attempts, follows, -, steps, signatures, -, -⟩ :=
    type_usages_as_named (t := ⟨"Number", none, []⟩) (fun _ _ => rfl) ends (fun _ _ => rfl) rfl
      readable a rfl TypeExpr.read_number (by decide) (by decide) (.ofSeed 0)
  refine ⟨ok, events, attempts, follows, ?_, signatures.trans accepted⟩
  have no_methods : a.catalog.methodsOf "Number" = [] := by decide
  rw [steps, no_methods]
  rfl

theorem read_array : TypeExpr.read "Array" = .ok .array := by
  have alone : TypeExpr.tokens "Array" = [⟨.word "Array", 0⟩] := by decide
  exact TypeExpr.read_of_word alone rfl

/-- A document of the type of arrays and a function that takes one. -/
def arrayDocument : Catalog.Document where
  functions := [{ name := "take_array", params := ["a: Array"] }]
  types := [{ name := "Array" }]

theorem read_array_parameter : Parameter.read "a: Array" false = .ok ⟨"a", .array, .positional⟩ := by
  have trimmed : Text.trim "a: Array" = "a: Array" := by decide
  have type : Text.trim " Array" = "Array" := by decide
  have cut : Text.cut? ":" "a: Array" = some ("a", " Array") := by decide
  have name : Text.trim "a" = "a" := by decide
  rw [← trimmed] at cut
  have parsed : TypeExpr.read (Text.trim " Array") = .ok .array := by rw [type, read_array]
  have read := Parameter.read_positional (by decide) cut (by decide) (by decide) parsed
  rw [name] at read
  exact read

theorem ofDocument_arrayDocument :
    Catalog.ofDocument arrayDocument
      = .ok (oneTypeAudit ⟨"Array", none, []⟩ (oneParameter "take_array" "a" .array) "[]").catalog := by
  have hierarchy : Hierarchy.ofRows [("Array", none)] = .ok ⟨[("Array", ["Array"])]⟩ := by
    rw [Hierarchy.ofRows_eq (by decide)]
    rfl
  have functions := callablesOf_oneParameter "take_array" [] (by decide) read_array_parameter
  exact Catalog.ofDocument_eq_ok_iff.2 ⟨hierarchy, functions, rfl, by decide⟩

/-- The function takes arrays, as the name of the type means them, and nothing is done for it. -/
theorem array_is_passed_to_nothing :
    let taker := oneParameter "take_array" "a" .array
    let a := oneTypeAudit ⟨"Array", none, []⟩ taker "[]"
    Catalog.ofDocument arrayDocument = .ok a.catalog ∧ TypeExpr.read "Array" = .ok .array ∧
      a.catalog.owner? .array = some ⟨"Array", none, []⟩ ∧
      a.templates.hasDefault .array = true ∧ a.options.typeUsages = true ∧
      a.accepting .array a.receivers = [taker] ∧
      ((a.planType ⟨"Array", none, []⟩).run (.ofSeed 0)).actions = [] ∧
      (a.run Session.quietTool (.ofSeed 0) [⟨"Array", none, []⟩] [] oneLineProject).2.session.seen
        = [] := by
  intro taker a
  exact ⟨ofDocument_arrayDocument, read_array, by decide, by decide, rfl, by decide, rfl, rfl⟩

end Audit

end SignatureAudit
