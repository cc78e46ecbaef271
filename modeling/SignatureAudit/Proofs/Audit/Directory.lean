import SignatureAudit.Proofs.Audit.Untouched
import SignatureAudit.Proofs.Audit.Wording
import SignatureAudit.Proofs.Call.Directory

/-!
# Where the directory is placed

The directory of the project can be placed when a template is expanded or when a line is written to
the build file. Both ways plan the same steps up to where the directory has been placed, and draw
the same names (`matches_stages`). Lines are written with the directory placed, which the first way
has already done in the literals, so the tool sees the same in both runs, and they end and count
alike (`run_places_directory`), whatever the tool does.
-/

namespace SignatureAudit

open Template (SameIn SameLines placeDirectory)

/-! ## Plans -/

/-- A probe with the directory placed in its lines. -/
def Probe.placed (directory : String) (p : Probe) : Probe :=
  { p with
    setup := p.setup.map (placeDirectory directory)
    call := p.call.map (placeDirectory directory)
    usage := p.usage.map (placeDirectory directory) }

/-- A step with the directory placed in its lines. -/
def Step.placed (directory : String) : Step → Step
  | .probe p => .probe (p.placed directory)
  | step => step

/-- Whichever names are fresh, both plans have the same steps once the directory is placed, and end
with values of a kind. -/
structure Planning.Matches {α β : Type} (directory : String) (R : α → β → Prop) (x : Planning α)
    (y : Planning β) : Prop where
  steps : ∀ names, (x.run names).steps.map (Step.placed directory)
    = (y.run names).steps.map (Step.placed directory)
  value : ∀ names, R (x.run names).value.1 (y.run names).value.1
  names : ∀ names, (x.run names).value.2 = (y.run names).value.2

/-- Both stages have the same steps once the directory is placed. -/
structure Stage.Matches (directory : String) (x y : Stage) : Prop where
  emptied : x.emptied = y.emptied
  planning : x.planning.Matches directory Eq y.planning

variable {d : String}

theorem Probe.placed_eq (description : String) {setup setup' call call' usage usage' : List String}
    (hsetup : SameLines d setup setup') (hcall : SameLines d call call')
    (husage : SameLines d usage usage') :
    (Probe.mk description setup call usage).placed d
      = (Probe.mk description setup' call' usage').placed d := by
  rw [placed, placed, mk.injEq]
  exact ⟨rfl, hsetup, hcall, husage⟩

namespace Planning.Matches

variable {α α' β β' : Type} {R : α → α' → Prop} {S : β → β' → Prop}

theorem refl (x : Planning α) : Matches d Eq x x := ⟨fun _ => rfl, fun _ => rfl, fun _ => rfl⟩

theorem pure {a : α} {b : α'} (h : R a b) :
    Matches d R (Pure.pure a : Planning α) (Pure.pure b) :=
  ⟨fun _ => rfl, fun _ => h, fun _ => rfl⟩

theorem take {step step' : Step} (h : step.placed d = step'.placed d) :
    Matches d Eq (Planning.take step) (Planning.take step') :=
  ⟨fun _ => congrArg (fun s => [s]) h, fun _ => rfl, fun _ => rfl⟩

theorem lift {x : Naming α} {y : Naming α'} (h : Naming.Matches R x y) :
    Matches d R (x : Planning α) (y : Planning α') :=
  ⟨fun _ => rfl, h.value, h.names⟩

theorem bind {x : Planning α} {y : Planning α'} {f : α → Planning β} {g : α' → Planning β'}
    (hx : Matches d R x y) (hf : ∀ {a b}, R a b → Matches d S (f a) (g b)) :
    Matches d S (x >>= f) (y >>= g) := by
  constructor
  · intro names
    simp only [StateT.run_bind, Plan.steps_bind, List.map_append, hx.steps names, hx.names names]
    rw [(hf (hx.value names)).steps]
  · intro names
    simp only [StateT.run_bind, Plan.value_bind, hx.names names]
    exact (hf (hx.value names)).value _
  · intro names
    simp only [StateT.run_bind, Plan.value_bind, hx.names names]
    exact (hf (hx.value names)).names _

end Planning.Matches

namespace Audit

/-- The audit with templates that know another directory of the project, or none. -/
def inDirectory (a : Audit) (directory : Option String) : Audit :=
  { a with templates := a.templates.inDirectory directory }

/-- Two ways to call a signature are the same, with the same lines once the directory is placed. -/
def SameCallee (directory : String) (one other : List String × CallForm) : Prop :=
  SameLines directory one.1 other.1 ∧ one.2 = other.2

theorem assign_matches (var : String) {literal literal' : String} (h : SameIn d literal literal') :
    SameIn d (assign var literal) (assign var literal') :=
  .append (by decide) (.refl var) h

section

variable (a : Audit) (clean : Text.contains d Template.directoryMarker = false)
include clean

theorem matches_calleeForm (s : Signature) :
    Naming.Matches (Answers (SameCallee d)) ((a.inDirectory (some d)).calleeForm s).run
      ((a.inDirectory none).calleeForm s).run := by
  have called {literal literal' : String} (h : SameIn d literal literal') :
      SameCallee d ([assign receiverVariable literal], CallForm.method s receiverVariable)
        ([assign receiverVariable literal'], CallForm.method s receiverVariable) :=
    ⟨.cons (assign_matches _ h) (.refl []), rfl⟩
  rw [calleeForm, calleeForm]
  cases s.receiver with
  | none => exact .ok ⟨.refl [], rfl⟩
  | some receiver =>
    refine .bind_except (.lift (a.templates.matches_receiver clean s.id)) fun own => ?_
    cases own with
    | some literal => exact .ok (called literal)
    | none =>
      refine .bind_except (a.templates.matches_resolve clean _ _) fun literal => ?_
      exact .ok (called literal)

theorem matches_slotStep (type : TypeExpr) {setup setup' : List String}
    (hsetup : SameLines d setup setup') (var origin : String) (s : Signature) (slot : Slot) :
    Naming.Matches (fun one other => Step.placed d one = Step.placed d other)
      ((a.inDirectory (some d)).slotStep type setup var origin s slot)
      ((a.inDirectory none).slotStep type setup' var origin s slot) := by
  refine .bind (a.matches_calleeForm clean s) fun callee => ?_
  cases callee with
  | error missing => exact .pure rfl
  | @ok one other same =>
    obtain ⟨receiver, form⟩ := one
    obtain ⟨receiver', form'⟩ := other
    obtain ⟨lines, rfl⟩ := same
    refine .bind (CallForm.matches_render _ a.templates clean ..) fun rendered => ?_
    cases rendered with
    | error fault => exact .pure rfl
    | ok call =>
      exact .pure (congrArg Step.probe (Probe.placed_eq _ (hsetup.append lines) call (.refl [])))

theorem matches_planUsages (type : TypeExpr) {setup setup' : List String}
    (hsetup : SameLines d setup setup') (var origin : String) (signatures : List Signature) :
    Planning.Matches d Eq
      ((a.inDirectory (some d)).planUsages type setup var origin signatures)
      ((a.inDirectory none).planUsages type setup' var origin signatures) := by
  induction signatures with
  | nil => exact .refl _
  | cons s rest ih =>
    have slots (directory : Option String) :
        s.slot? (a.inDirectory directory).catalog.hierarchy type
          = s.slot? a.catalog.hierarchy type := rfl
    rw [planUsages, planUsages, slots, slots]
    refine .bind (.refl _) fun _ => ?_
    cases s.slot? a.catalog.hierarchy type with
    | none => exact ih
    | some slot =>
      have step := a.matches_slotStep clean type hsetup var origin s slot
      exact .bind (.lift step) fun same => .bind (.take same) fun _ => ih

theorem matches_planCalls (id : String) (form : CallForm) (returnAs : Option String)
    {setup setup' usage usage' : List String} (hsetup : SameLines d setup setup')
    (husage : SameLines d usage usage') {first? first?' : Option (List String)}
    (hfirst : Option.Rel (SameLines d) first? first?') (calls : List Combination) :
    Planning.Matches d (Option.Rel (SameLines d))
      ((a.inDirectory (some d)).planCalls id form returnAs setup usage first? calls)
      ((a.inDirectory none).planCalls id form returnAs setup' usage' first?' calls) := by
  induction calls generalizing first? first?' with
  | nil => exact .pure hfirst
  | cons c rest ih =>
    rw [planCalls, planCalls]
    refine .bind (.refl _) fun _ => ?_
    refine .bind (.lift (form.matches_render a.templates clean c returnAs false)) fun rendered => ?_
    cases rendered with
    | @ok one other call =>
      have first : Option.Rel (SameLines d) (first?.or (some one)) (first?'.or (some other)) := by
        cases hfirst with
        | some h => exact .some h
        | none => exact .some call
      refine .bind (.take ?_) fun _ => ih first
      exact congrArg Step.probe (Probe.placed_eq _ hsetup call husage)
    | error fault =>
      refine .bind (.take rfl) fun _ => ?_
      by_cases missing : fault.isMissing = true
      · rw [if_pos missing, if_pos missing]
        exact ih hfirst
      · rw [if_neg missing, if_neg missing]
        exact .pure hfirst

theorem matches_planResult (id : String) (s : Signature) (var : String) :
    Planning.Matches d (SameLines d) ((a.inDirectory (some d)).planResult id s var)
      ((a.inDirectory none).planResult id s var) := by
  refine .bind (.lift (a.catalog.matches_usages a.templates clean s.returns var)) fun listed => ?_
  cases listed with
  | ok lines => exact .pure lines
  | error fault => exact .bind (.take rfl) fun _ => .pure (.refl [])

theorem matches_planReturnUsages (id : String) (s : Signature) {setup setup' : List String}
    (hsetup : SameLines d setup setup') {first? first?' : Option (List String)}
    (hfirst : Option.Rel (SameLines d) first? first?') :
    Planning.Matches d Eq ((a.inDirectory (some d)).planReturnUsages id s setup first?)
      ((a.inDirectory none).planReturnUsages id s setup' first?') := by
  cases hfirst with
  | none => exact .refl _
  | some call =>
    have wanted (directory : Option String) :
        ((a.inDirectory directory).options.returnUsages
          && ((a.inDirectory directory).catalog.owner? s.returns).isSome)
        = (a.options.returnUsages && (a.catalog.owner? s.returns).isSome) := rfl
    simp only [planReturnUsages, wanted]
    by_cases passed : (a.options.returnUsages && (a.catalog.owner? s.returns).isSome) = true
    · rw [if_pos passed, if_pos passed]
      exact a.matches_planUsages clean _ (hsetup.append call) ..
    · rw [if_neg passed, if_neg passed]
      exact .refl _

theorem matches_planSignature (id : String) (s : Signature) (form : CallForm)
    {setup setup' : List String} (hsetup : SameLines d setup setup') :
    Planning.Matches d Eq ((a.inDirectory (some d)).planSignature id s form setup)
      ((a.inDirectory none).planSignature id s form setup') := by
  rw [planSignature, planSignature]
  by_cases absent : s.returns = .none
  · rw [if_pos absent, if_pos absent]
    refine .bind (a.matches_planCalls clean id form none hsetup (.refl []) .none _) fun _ => ?_
    exact .refl _
  · rw [if_neg absent, if_neg absent]
    refine .bind (a.matches_planResult clean ..) fun usage => ?_
    refine .bind (a.matches_planCalls clean id form _ hsetup usage .none _) fun firstCall => ?_
    exact a.matches_planReturnUsages clean id s hsetup firstCall

theorem matches_methodReceiver (m : MethodRef) (type : String) {object object' : String}
    (hobject : SameIn d object object') :
    Naming.Matches (SameIn d) ((a.inDirectory (some d)).methodReceiver m type object)
      ((a.inDirectory none).methodReceiver m type object') := by
  refine .bind (a.templates.matches_receiver clean _) fun own => ?_
  cases own with
  | some literal => exact .pure literal
  | none =>
    refine .bind (a.templates.matches_receiver clean _) fun declared => ?_
    cases declared with
    | some literal => exact .pure literal
    | none => exact .pure hobject

theorem matches_planOverloads (id : String) {setup setup' : List String}
    (hsetup : SameLines d setup setup') (overloads : List Signature) :
    Planning.Matches d Eq ((a.inDirectory (some d)).planOverloads id setup overloads)
      ((a.inDirectory none).planOverloads id setup' overloads) := by
  induction overloads with
  | nil => exact .refl _
  | cons s rest ih => exact .bind (a.matches_planSignature clean id s _ hsetup) fun _ => ih

theorem matches_planMethods (type : String) {object object' : String}
    (hobject : SameIn d object object') (methods : List MethodRef) :
    Planning.Matches d Eq ((a.inDirectory (some d)).planMethods type object methods)
      ((a.inDirectory none).planMethods type object' methods) := by
  induction methods with
  | nil => exact .refl _
  | cons m rest ih =>
    refine .bind (.lift (a.matches_methodReceiver clean m type hobject)) fun receiver => ?_
    have setup := SameLines.cons (assign_matches objectVariable receiver) (.refl [])
    exact .bind (a.matches_planOverloads clean _ setup _) fun _ => ih

theorem matches_planType (t : TypeInfo) :
    Planning.Matches d Eq ((a.inDirectory (some d)).planType t)
      ((a.inDirectory none).planType t) := by
  rw [planType, planType]
  refine .bind (.refl _) fun _ => ?_
  refine .bind (.lift (a.templates.matches_resolve clean _ _)) fun resolved => ?_
  cases resolved with
  | error missing => exact .refl _
  | ok object =>
    refine .bind (a.matches_planMethods clean t.name object _) fun _ => ?_
    have wanted (directory : Option String) :
        (a.inDirectory directory).options.typeUsages = a.options.typeUsages := rfl
    rw [wanted, wanted]
    by_cases passed : a.options.typeUsages = true
    · rw [if_pos passed, if_pos passed]
      exact a.matches_planUsages clean _ (.cons (assign_matches _ object) (.refl [])) ..
    · rw [if_neg passed, if_neg passed]
      exact .refl _

theorem matches_planFunction (id : String) (overloads : List Signature) :
    Planning.Matches d Eq ((a.inDirectory (some d)).planFunction id overloads)
      ((a.inDirectory none).planFunction id overloads) := by
  induction overloads with
  | nil => exact .refl _
  | cons s rest ih => exact .bind (a.matches_planSignature clean id s _ (.refl [])) fun _ => ih

theorem matches_planProjectCalls (id : String) (form : CallForm) (calls : List Combination) :
    Planning.Matches d Eq ((a.inDirectory (some d)).planProjectCalls id form calls)
      ((a.inDirectory none).planProjectCalls id form calls) := by
  induction calls with
  | nil => exact .refl _
  | cons c rest ih =>
    rw [planProjectCalls, planProjectCalls]
    refine .bind (.refl _) fun _ => ?_
    refine .bind (.lift (form.matches_render a.templates clean c none true)) fun rendered => ?_
    cases rendered with
    | ok call =>
      refine .bind (.take ?_) fun _ => ih
      exact congrArg Step.probe (Probe.placed_eq _ (.refl []) call (.refl []))
    | error fault =>
      by_cases missing : fault.isMissing = true
      · simp only [if_pos missing]
        exact .bind (.take rfl) fun _ => ih
      · simp only [if_neg missing]
        exact .take rfl

theorem matches_planProject (id : String) (overloads : List Signature) :
    Planning.Matches d Eq ((a.inDirectory (some d)).planProject id overloads)
      ((a.inDirectory none).planProject id overloads) := by
  induction overloads with
  | nil => exact .refl _
  | cons s rest ih => exact .bind (a.matches_planProjectCalls clean ..) fun _ => ih

theorem matches_functionStages (f : Callable) :
    List.Forall₂ (Stage.Matches d) ((a.inDirectory (some d)).functionStages f)
      ((a.inDirectory none).functionStages f) := by
  rw [functionStages, functionStages]
  by_cases first : isProjectCall f.name f.receiver = true
  · rw [if_pos first, if_pos first]
    exact .cons ⟨rfl, .refl _⟩ (.cons ⟨rfl, a.matches_planProject clean ..⟩ .nil)
  · rw [if_neg first, if_neg first]
    exact .cons ⟨rfl, .bind (.refl _) fun _ => a.matches_planFunction clean ..⟩ .nil

/-- Who places the directory does not change the steps, once it is placed. -/
theorem matches_stages (types : List TypeInfo) (functions : List Callable) :
    List.Forall₂ (Stage.Matches d) ((a.inDirectory (some d)).stages types functions)
      ((a.inDirectory none).stages types functions) := by
  rw [stages, stages]
  refine List.rel_append ?_ ?_
  · induction types with
    | nil => exact .nil
    | cons t rest ih => exact .cons ⟨rfl, a.matches_planType clean t⟩ ih
  · induction functions with
    | nil => exact .nil
    | cons f rest ih =>
      rw [List.flatMap_cons, List.flatMap_cons]
      exact List.rel_append (a.matches_functionStages clean f) ih

end

end Audit

/-! ## Work on the project -/

namespace Session

open Project (BuildText.append BuildText.escape)

/-- Work leaves the project where it is. -/
structure Stays {α : Type} (work : Work α) : Prop where
  location : ∀ s, (runOn work s).2.location = s.location

namespace Stays

variable {α β : Type}

theorem bind {x : Work α} {f : α → Work β} (hx : Stays x) (hf : ∀ a, Stays (f a)) :
    Stays (x >>= f) :=
  ⟨fun s => runOn_bind_keeps (p := fun t => t.location = s.location) (hx.location s)
    fun a t same => ((hf a).location t).trans same⟩

theorem get : Stays (MonadState.get : Work Session) := ⟨fun _ => rfl⟩

theorem ofExcept (x : Except Project.Fault α) : Stays (Session.ofExcept x) :=
  ⟨fun s => by rw [run_ofExcept]⟩

theorem content : Stays Session.content := ⟨fun s => by rw [run_content]⟩

theorem lineCount : Stays Session.lineCount :=
  ⟨fun s => by rw [Session.lineCount, runOn_map, run_content]⟩

theorem write (text : String) : Stays (Session.write text) :=
  .bind .get fun _ => .bind (.ofExcept _) fun _ => ⟨fun _ => rfl⟩

theorem edit (f : String → Except Project.Fault String) : Stays (Session.edit f) :=
  .bind .content fun _ => .bind (.ofExcept _) fun _ => .write _

theorem appendLines (lines : List String) : Stays (Session.appendLines lines) :=
  .bind .get fun _ => .edit _

theorem snapshot : Stays Session.snapshot := .bind .content fun _ => ⟨fun _ => rfl⟩

theorem restore : Stays Session.restore := by
  refine .bind .get fun s => ?_
  cases s.saved with
  | none => exact ⟨fun _ => rfl⟩
  | some text => exact .bind ⟨fun _ => rfl⟩ fun _ => .write text

theorem invoke (tool : Tool) (args : List String) (directory : String) :
    Stays (Session.invoke tool args directory) := ⟨fun _ => rfl⟩

theorem probe (tool : Tool) (lines : List String) : Stays (Session.probe tool lines) := by
  refine .bind .lineCount fun before => .bind (.appendLines _) fun _ => .bind .get fun s => ?_
  refine .bind (.invoke ..) fun result => .bind (.edit _) fun _ => ?_
  rcases result with failure | output
  · cases failure <;> exact ⟨fun _ => rfl⟩
  · exact ⟨fun _ => rfl⟩

end Stays

theorem append_congr {location : String} {xs ys : List String} (h : SameLines location xs ys)
    (text : String) : BuildText.append location text xs = BuildText.append location text ys := by
  have written (lines : List String) :
      (lines.map fun line => BuildText.escape location line ++ "\n")
        = (lines.map (placeDirectory location)).map fun line =>
          Text.replaceAll line "\n" "\\n" ++ "\n" := by
    rw [List.map_map]
    rfl
  rw [BuildText.append, BuildText.append, written, written, h]

/-- The directory is placed in the lines of a probe, so it may have been placed before. -/
theorem run_probe_congr (tool : Tool) {s : Session} {xs ys : List String}
    (h : SameLines s.location xs ys) : runOn (probe tool xs) s = runOn (probe tool ys) s := by
  cases readable : textOf s.tree with
  | error fault => rw [run_probe_unreadable readable, run_probe_unreadable readable]
  | ok text =>
    have candidates : SameLines s.location (xs ++ [sentinel]) (ys ++ [sentinel]) :=
      h.append (.refl _)
    have appended : runOn (appendLines (xs ++ [sentinel])) s
        = runOn (appendLines (ys ++ [sentinel])) s := by
      rw [appendLines, appendLines, runOn_bind_ok (runOn_get s), runOn_bind_ok (runOn_get s)]
      simp only [append_congr candidates]
    rw [probe, probe, runOn_bind_ok (run_lineCount readable),
      runOn_bind_ok (run_lineCount readable)]
    simp only [candidates.length]
    rw [runOn_bind, runOn_bind, appended]

end Session

namespace Audit

/-! ## Runs -/

/-- On a project in the directory, two parts of a run answer the same and do the same to all but the
reports; the project stays there. -/
structure Run.Matches {α : Type} (directory : String) (x y : Run α) : Prop where
  run : ∀ v w : Verdicts, v.Alike w → v.session.location = directory →
    (runOn x v).1 = (runOn y w).1 ∧ (runOn x v).2.Alike (runOn y w).2 ∧
      (runOn x v).2.session.location = directory

namespace Run.Matches

variable {α β : Type} {tool : Tool}

theorem of_alike {x y : Run α} (h : Run.Alike x y)
    (stays : ∀ v, (runOn x v).2.session.location = v.session.location) : Matches d x y := by
  refine ⟨fun v w same here => ?_⟩
  obtain ⟨answer, after⟩ := h.run v w same
  exact ⟨answer, after, (stays v).trans here⟩

theorem bind {x y : Run α} {f g : α → Run β} (hx : Matches d x y)
    (hf : ∀ a, Matches d (f a) (g a)) : Matches d (x >>= f) (y >>= g) := by
  refine ⟨fun v w same here => ?_⟩
  obtain ⟨answer, after, stays⟩ := hx.run v w same here
  rw [runOn_bind, runOn_bind]
  generalize runOn x v = r at answer after stays
  generalize runOn y w = r' at answer after
  obtain ⟨first, v'⟩ := r
  obtain ⟨second, w'⟩ := r'
  obtain rfl : first = second := answer
  cases first with
  | error stop => exact ⟨rfl, after, stays⟩
  | ok a => exact (hf a).run v' w' after stays

theorem pure (a : α) : Matches d (Pure.pure a : Run α) (Pure.pure a) :=
  of_alike (.pure a) fun _ => rfl

theorem throw (stop : Stop) :
    Matches d (MonadExcept.throw stop : Run α) (MonadExcept.throw stop) :=
  of_alike (.throw stop) fun _ => rfl

theorem report (r r' : Report) : Matches d (Audit.report r) (Audit.report r') :=
  of_alike (.report r r') fun _ => rfl

theorem checkpoint : Matches d Audit.checkpoint Audit.checkpoint :=
  of_alike .checkpoint fun v => by rw [run_checkpoint]

theorem judge (p q : Probe) (o : Outcome) : Matches d (Audit.judge p o) (Audit.judge q o) :=
  of_alike (.judge p q o) fun v => by
    rw [run_judge_eq]
    rfl

theorem onSession {work work' : Session.Work α} (stays : Session.Stays work)
    (same : ∀ s : Session, s.location = d → runOn work s = runOn work' s) :
    Matches d (Audit.onSession work) (Audit.onSession work') := by
  refine ⟨fun v w alike here => ?_⟩
  have kept := (stays.location v.session).trans here
  have ran' := same v.session here
  cases ran : runOn work v.session with
  | mk answer session =>
    rw [ran] at kept ran'
    rw [alike.session] at ran'
    cases answer with
    | ok a =>
      rw [run_onSession_ok ran, run_onSession_ok ran'.symm]
      exact ⟨rfl, ⟨rfl, alike.names, alike.tally⟩, kept⟩
    | error fault =>
      rw [run_onSession_error ran, run_onSession_error ran'.symm]
      exact ⟨rfl, ⟨rfl, alike.names, alike.tally⟩, kept⟩

theorem step {step step' : Step} (h : step.placed d = step'.placed d) :
    Matches d (runStep tool step) (runStep tool step') := by
  cases step with
  | checkpoint =>
    cases step' with
    | checkpoint => exact checkpoint
    | notice text => cases h
    | probe q => cases h
  | notice text =>
    cases step' with
    | checkpoint => cases h
    | notice text' => exact report ..
    | probe q => cases h
  | probe p =>
    cases step' with
    | checkpoint => cases h
    | notice text' => cases h
    | probe q =>
      obtain ⟨-, setup, call, usage⟩ := Probe.mk.inj (Step.probe.inj h)
      have lines : SameLines d p.lines q.lines := (SameLines.append setup call).append usage
      refine (onSession (.probe tool p.lines) fun s here => ?_).bind fun o =>
        checkpoint.bind fun _ => judge p q o
      exact Session.run_probe_congr tool (here ▸ lines)

theorem steps {front back : List Step}
    (h : front.map (Step.placed d) = back.map (Step.placed d)) :
    Matches d (runSteps tool front) (runSteps tool back) := by
  induction front generalizing back with
  | nil =>
    obtain rfl : back = [] := List.map_eq_nil_iff.1 h.symm
    exact pure ()
  | cons first rest ih =>
    cases back with
    | nil => cases h
    | cons other others =>
      rw [List.map_cons, List.map_cons, List.cons.injEq] at h
      exact (step h.1).bind fun _ => ih h.2

theorem planning {x y : Planning Unit} (h : x.Matches d Eq y) :
    Matches d (runPlanning tool x) (runPlanning tool y) := by
  refine ⟨fun v w same here => ?_⟩
  have taken : Matches d (runSteps tool (x.run v.names).steps)
      (runSteps tool (y.run v.names).steps) := steps (h.steps v.names)
  obtain ⟨answer, after, stays⟩ := taken.run v w same here
  rw [run_planning_eq, run_planning_eq, ← same.names, ← h.names v.names]
  generalize runOn (runSteps tool (x.run v.names).steps) v = r at answer after stays
  generalize runOn (runSteps tool (y.run v.names).steps) w = r' at answer after
  obtain ⟨first, v'⟩ := r
  obtain ⟨second, w'⟩ := r'
  obtain rfl : first = second := answer
  cases first with
  | error stop => exact ⟨rfl, after, stays⟩
  | ok _ => exact ⟨rfl, ⟨after.session, rfl, after.tally⟩, stays⟩

/-- The answer of a part of a run, as an answer that does not end the run. -/
theorem lift {x y : Run α} (h : Matches d x y) :
    Matches d (ExceptT.lift x.run : Run (Except Stop α)) (ExceptT.lift y.run) := by
  refine ⟨fun v w same here => ?_⟩
  obtain ⟨answer, after⟩ := h.run v w same here
  rw [runOn_lift_run, runOn_lift_run]
  exact ⟨congrArg Except.ok answer, after⟩

theorem stage {x y : Stage} (h : x.Matches d y) :
    Matches d (runStage tool x) (runStage tool y) := by
  have work {work : Session.Work Unit} (stays : Session.Stays work) :
      Matches d (Audit.onSession work) (Audit.onSession work) := onSession stays fun _ _ => rfl
  rw [runStage, runStage, h.emptied]
  by_cases emptied : y.emptied = true
  · rw [if_pos emptied, if_pos emptied]
    refine (work .snapshot).bind fun _ => (work (.write "")).bind fun _ => ?_
    refine (planning h.planning).lift.bind fun ended => (work .restore).bind fun _ => ?_
    cases ended with
    | ok _ => exact pure ()
    | error stop => exact throw stop
  · rw [if_neg emptied, if_neg emptied]
    exact planning h.planning

theorem stages {x y : List Stage} (h : List.Forall₂ (Stage.Matches d) x y) :
    Matches d (runStages tool x) (runStages tool y) := by
  induction h with
  | nil => exact pure ()
  | cons first _ ih => exact (stage first).bind fun _ => ih

end Run.Matches

/-- **Who places the directory does not matter.** Let the directory of a project have no directory
marker. A run whose templates know the directory, and a run whose templates leave its marker to the
build file, end the same way and show the tool the same, text by text; they leave the same session
and the same names, and count the same. Nothing is asked of the templates or of the tool. -/
theorem run_places_directory (tool : Tool) (a : Audit) (names : NameSupply)
    (types : List TypeInfo) (functions : List Callable) {s : Session}
    (clean : Text.contains s.location Template.directoryMarker = false) :
    let placed := (a.inDirectory (some s.location)).run tool names types functions s
    let left := (a.inDirectory none).run tool names types functions s
    placed.1 = left.1 ∧ placed.2.session.seen = left.2.session.seen ∧ placed.2.Alike left.2 := by
  simp only [run_eq]
  have matching : Run.Matches s.location
      (runStages tool ((a.inDirectory (some s.location)).stages types functions))
      (runStages tool ((a.inDirectory none).stages types functions)) :=
    .stages (a.matches_stages clean types functions)
  obtain ⟨answer, after, -⟩ :=
    matching.run { session := s, names } { session := s, names } ⟨rfl, rfl, rfl⟩ rfl
  generalize runOn (runStages tool ((a.inDirectory (some s.location)).stages types functions))
    { session := s, names } = r at answer after
  generalize runOn (runStages tool ((a.inDirectory none).stages types functions))
    { session := s, names } = r' at answer after
  obtain ⟨first, v⟩ := r
  obtain ⟨second, w⟩ := r'
  obtain rfl : first = second := answer
  have seen : v.session.seen = w.session.seen := congrArg Session.seen after.session
  rcases first with (_ | fault) | _
  · exact ⟨rfl, seen, after.session, after.names, after.tally⟩
  · exact ⟨rfl, seen, after⟩
  · exact ⟨rfl, seen, after⟩

/-- An audit of a function whose argument has a template in which two markers share a character. -/
def markedAudit : Audit where
  catalog := ⟨[⟨"run", none, [⟨"run", none, [⟨"at", .named "String", .positional⟩], .none⟩]⟩], [],
    ⟨[]⟩⟩
  templates := ⟨[("String", "$RANDOM_STRING$BUILDFILE_DIR$ + $BUILDFILE_DIR$")], [], none⟩

/-- The names of the quoted text and of the variable. -/
def twoNames : NameSupply where
  name i := if i = 0 then "a" else "b"

/-- The audit of the function, with templates that know the directory or leave its marker. -/
def markedRun (directory : Option String) : Except Project.Fault Unit × Verdicts :=
  (markedAudit.inDirectory directory).run Session.quietTool twoNames []
    markedAudit.catalog.functions oneLineProject

/-- The lines that are planned for the function. -/
def markedLines (directory : Option String) : List (List String) :=
  ((markedAudit.inDirectory directory).schedule twoNames
    (checks [] markedAudit.catalog.functions)).map fun (_, p) => p.lines

/-- The planned lines differ in the marker that is left, and the tool sees the same. -/
theorem marked_run_places_directory :
    Text.contains oneLineProject.location Template.directoryMarker = false ∧
      markedLines (some oneLineProject.location) = [["b = 'a'BUILDFILE_DIR$ + '/p'", "run(b)"]] ∧
      markedLines none = [["b = 'a'BUILDFILE_DIR$ + $BUILDFILE_DIR$", "run(b)"]] ∧
      (markedRun (some oneLineProject.location)).2.session.seen
        = (markedRun none).2.session.seen := by
  have clean : Text.contains oneLineProject.location Template.directoryMarker = false := by decide
  have same := run_places_directory Session.quietTool markedAudit twoNames []
    markedAudit.catalog.functions clean
  refine ⟨clean, by decide, by decide, ?_⟩
  rw [markedRun, markedRun]
  exact same.2.1

end Audit

end SignatureAudit
