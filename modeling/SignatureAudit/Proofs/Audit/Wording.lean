import SignatureAudit.Proofs.Audit.Run
import Mathlib.Data.List.Forall2

/-!
# Wording

How calls are described is a choice of the user. It changes the texts of notices and reports only:
the plans of two audits that differ in it have the same steps up to their texts, and draw the same
names (`alike_stages`). Texts are never read back, so their runs show the tool the same and count
alike (`run_worded`), whatever the tool does.
-/

namespace SignatureAudit

/-! ## Plans -/

/-- A step without its texts. -/
def Step.bare : Step → Step
  | .checkpoint => .checkpoint
  | .notice _ => .notice ""
  | .probe p => .probe { p with description := "" }

/-- Two plans differ in the texts of their steps only. -/
structure Plan.Alike {α : Type} (p q : Plan α) : Prop where
  steps : p.steps.map Step.bare = q.steps.map Step.bare
  value : p.value = q.value

/-- Two ways of planning differ in the texts of their steps only, whichever names are fresh. -/
structure Planning.Alike {α : Type} (x y : Planning α) : Prop where
  run : ∀ names, (x.run names).Alike (y.run names)

/-- Two stages differ in the texts of their steps only. -/
structure Stage.Alike (x y : Stage) : Prop where
  emptied : x.emptied = y.emptied
  planning : x.planning.Alike y.planning

/-- Two verdicts differ in their reports only. -/
structure Verdicts.Alike (v w : Verdicts) : Prop where
  session : v.session = w.session
  names : v.names = w.names
  tally : v.tally = w.tally

namespace Planning.Alike

variable {α β : Type}

theorem refl (x : Planning α) : Alike x x := ⟨fun _ => ⟨rfl, rfl⟩⟩

theorem take {step step' : Step} (h : step.bare = step'.bare) :
    Alike (Planning.take step) (Planning.take step') :=
  ⟨fun _ => ⟨congrArg (fun s => [s]) h, rfl⟩⟩

theorem bind {x y : Planning α} {f g : α → Planning β} (hx : Alike x y)
    (hf : ∀ a, Alike (f a) (g a)) : Alike (x >>= f) (y >>= g) := by
  refine ⟨fun names => ?_⟩
  have first := hx.run names
  have second := (hf (x.run names).value.1).run (x.run names).value.2
  constructor
  · rw [StateT.run_bind, StateT.run_bind, Plan.steps_bind, Plan.steps_bind, List.map_append,
      List.map_append, first.steps, ← first.value, second.steps]
  · rw [StateT.run_bind, StateT.run_bind, Plan.value_bind, Plan.value_bind, ← first.value,
      second.value]

/-- Taking steps that differ in their texts only, where the same names are drawn for both. -/
theorem take_lift {x y : Naming Step} (h : Step.bare <$> x = Step.bare <$> y) :
    Alike (do Planning.take (← (x : Planning Step))) (do Planning.take (← (y : Planning Step))) := by
  refine ⟨fun names => ?_⟩
  have same : (Step.bare (x.run names).1, (x.run names).2)
      = (Step.bare (y.run names).1, (y.run names).2) := congrFun h names
  rw [Prod.mk.injEq] at same
  exact ⟨congrArg (fun s => [s]) same.1, congrArg (fun names => ((), names)) same.2⟩

end Planning.Alike

namespace Audit

/-- The audit with calls described in another way. -/
def worded (a : Audit) (nameOnly : Bool) : Audit :=
  { a with options := { a.options with nameOnly } }

section

variable (a : Audit) (b : Bool)

theorem bare_slotStep (type : TypeExpr) (setup : List String) (var origin : String) (s : Signature)
    (slot : Slot) :
    Step.bare <$> (a.worded b).slotStep type setup var origin s slot
      = Step.bare <$> a.slotStep type setup var origin s slot := by
  have callee : (a.worded b).calleeForm s = a.calleeForm s := rfl
  rw [slotStep, slotStep, map_bind, map_bind, callee]
  refine bind_congr fun found => ?_
  cases found with
  | error missing => rfl
  | ok found =>
    obtain ⟨receiver, form⟩ := found
    simp only [map_bind]
    refine bind_congr fun rendered => ?_
    cases rendered with
    | ok call => rfl
    | error fault => rfl

theorem alike_planUsages (type : TypeExpr) (setup : List String) (var origin : String)
    (signatures : List Signature) :
    Planning.Alike ((a.worded b).planUsages type setup var origin signatures)
      (a.planUsages type setup var origin signatures) := by
  induction signatures with
  | nil => exact .refl _
  | cons s rest ih =>
    rw [planUsages, planUsages]
    refine .bind (.refl _) fun _ => ?_
    have same : s.slot? (a.worded b).catalog.hierarchy type
        = s.slot? a.catalog.hierarchy type := rfl
    rw [same]
    cases s.slot? a.catalog.hierarchy type with
    | none => exact ih
    | some slot =>
      -- the text of the step is made up while names are drawn, so both are compared at once
      have passed := Planning.Alike.take_lift (bare_slotStep a b type setup var origin s slot)
      simpa only [bind_assoc] using passed.bind fun _ => ih

theorem alike_planCalls (id : String) (form : CallForm) (returnAs : Option String)
    (setup usage : List String) (first? : Option (List String)) (calls : List Combination) :
    Planning.Alike ((a.worded b).planCalls id form returnAs setup usage first? calls)
      (a.planCalls id form returnAs setup usage first? calls) := by
  induction calls generalizing first? with
  | nil => exact .refl _
  | cons c rest ih =>
    rw [planCalls, planCalls]
    refine .bind (.refl _) fun _ => .bind (.refl _) fun rendered => ?_
    cases rendered with
    | ok call => exact .bind (.take rfl) fun _ => ih _
    | error fault =>
      refine .bind (.take rfl) fun _ => ?_
      by_cases missing : fault.isMissing = true
      · rw [if_pos missing, if_pos missing]
        exact ih _
      · rw [if_neg missing, if_neg missing]
        exact .refl _

theorem alike_planReturnUsages (id : String) (s : Signature) (setup : List String)
    (firstCall : Option (List String)) :
    Planning.Alike ((a.worded b).planReturnUsages id s setup firstCall)
      (a.planReturnUsages id s setup firstCall) := by
  cases firstCall with
  | none => exact .refl _
  | some call =>
    rw [planReturnUsages, planReturnUsages]
    have same : ((a.worded b).options.returnUsages
        && ((a.worded b).catalog.owner? s.returns).isSome)
        = (a.options.returnUsages && (a.catalog.owner? s.returns).isSome) := rfl
    simp only [same]
    by_cases passed : (a.options.returnUsages && (a.catalog.owner? s.returns).isSome) = true
    · rw [if_pos passed, if_pos passed]
      exact alike_planUsages ..
    · rw [if_neg passed, if_neg passed]
      exact .refl _

theorem alike_planSignature (id : String) (s : Signature) (form : CallForm)
    (setup : List String) :
    Planning.Alike ((a.worded b).planSignature id s form setup)
      (a.planSignature id s form setup) := by
  rw [planSignature, planSignature]
  by_cases absent : s.returns = .none
  · rw [if_pos absent, if_pos absent]
    exact .bind (alike_planCalls ..) fun _ => .refl _
  · rw [if_neg absent, if_neg absent]
    refine .bind (.refl _) fun usage => .bind (alike_planCalls ..) fun firstCall => ?_
    exact alike_planReturnUsages ..

theorem alike_planOverloads (id : String) (setup : List String) (overloads : List Signature) :
    Planning.Alike ((a.worded b).planOverloads id setup overloads)
      (a.planOverloads id setup overloads) := by
  induction overloads with
  | nil => exact .refl _
  | cons s rest ih => exact .bind (alike_planSignature ..) fun _ => ih

theorem alike_planMethods (type object : String) (methods : List MethodRef) :
    Planning.Alike ((a.worded b).planMethods type object methods)
      (a.planMethods type object methods) := by
  induction methods with
  | nil => exact .refl _
  | cons m rest ih =>
    exact .bind (.refl _) fun receiver => .bind (alike_planOverloads ..) fun _ => ih

theorem alike_planType (t : TypeInfo) :
    Planning.Alike ((a.worded b).planType t) (a.planType t) := by
  rw [planType, planType]
  refine .bind (.refl _) fun _ => .bind (.refl _) fun resolved => ?_
  cases resolved with
  | error missing => exact .refl _
  | ok object =>
    refine .bind (alike_planMethods ..) fun _ => ?_
    have same : (a.worded b).options.typeUsages = a.options.typeUsages := rfl
    rw [same]
    by_cases passed : a.options.typeUsages = true
    · rw [if_pos passed, if_pos passed]
      exact alike_planUsages ..
    · rw [if_neg passed, if_neg passed]
      exact .refl _

theorem alike_planFunction (id : String) (overloads : List Signature) :
    Planning.Alike ((a.worded b).planFunction id overloads) (a.planFunction id overloads) := by
  induction overloads with
  | nil => exact .refl _
  | cons s rest ih => exact .bind (alike_planSignature ..) fun _ => ih

theorem alike_planProjectCalls (id : String) (form : CallForm) (calls : List Combination) :
    Planning.Alike ((a.worded b).planProjectCalls id form calls)
      (a.planProjectCalls id form calls) := by
  induction calls with
  | nil => exact .refl _
  | cons c rest ih =>
    rw [planProjectCalls, planProjectCalls]
    refine .bind (.refl _) fun _ => .bind (.refl _) fun rendered => ?_
    cases rendered with
    | ok call => exact .bind (.take rfl) fun _ => ih
    | error fault =>
      by_cases missing : fault.isMissing = true
      · simp only [if_pos missing]
        exact .bind (.take rfl) fun _ => ih
      · simp only [if_neg missing]
        exact .take rfl

theorem alike_planProject (id : String) (overloads : List Signature) :
    Planning.Alike ((a.worded b).planProject id overloads) (a.planProject id overloads) := by
  induction overloads with
  | nil => exact .refl _
  | cons s rest ih => exact .bind (alike_planProjectCalls ..) fun _ => ih

theorem alike_functionStages (f : Callable) :
    List.Forall₂ Stage.Alike ((a.worded b).functionStages f) (a.functionStages f) := by
  rw [functionStages, functionStages]
  by_cases first : isProjectCall f.name f.receiver = true
  · rw [if_pos first, if_pos first]
    exact .cons ⟨rfl, .refl _⟩ (.cons ⟨rfl, alike_planProject ..⟩ .nil)
  · rw [if_neg first, if_neg first]
    exact .cons ⟨rfl, .bind (.refl _) fun _ => alike_planFunction ..⟩ .nil

/-- How calls are described changes the texts of the steps only. -/
theorem alike_stages (types : List TypeInfo) (functions : List Callable) :
    List.Forall₂ Stage.Alike ((a.worded b).stages types functions)
      (a.stages types functions) := by
  rw [stages, stages]
  refine List.rel_append ?_ ?_
  · induction types with
    | nil => exact .nil
    | cons t rest ih => exact .cons ⟨rfl, alike_planType ..⟩ ih
  · induction functions with
    | nil => exact .nil
    | cons f rest ih =>
      rw [List.flatMap_cons, List.flatMap_cons]
      exact List.rel_append (alike_functionStages a b f) ih

end

/-! ## Runs -/

/-- Two parts of a run answer the same and do the same to all but the reports. -/
structure Run.Alike {α : Type} (x y : Run α) : Prop where
  run : ∀ v w : Verdicts, v.Alike w →
    (runOn x v).1 = (runOn y w).1 ∧ (runOn x v).2.Alike (runOn y w).2

namespace Run.Alike

variable {α β : Type} {tool : Tool}

theorem bind {x y : Run α} {f g : α → Run β} (hx : Alike x y) (hf : ∀ a, Alike (f a) (g a)) :
    Alike (x >>= f) (y >>= g) := by
  refine ⟨fun v w same => ?_⟩
  obtain ⟨answer, after⟩ := hx.run v w same
  rw [runOn_bind, runOn_bind]
  generalize runOn x v = r at answer after
  generalize runOn y w = r' at answer after
  obtain ⟨first, v'⟩ := r
  obtain ⟨second, w'⟩ := r'
  obtain rfl : first = second := answer
  cases first with
  | error stop => exact ⟨rfl, after⟩
  | ok a => exact (hf a).run v' w' after

theorem pure (a : α) : Alike (Pure.pure a : Run α) (Pure.pure a) := ⟨fun _ _ same => ⟨rfl, same⟩⟩

theorem throw (stop : Stop) : Alike (MonadExcept.throw stop : Run α) (MonadExcept.throw stop) :=
  ⟨fun _ _ same => ⟨rfl, same⟩⟩

theorem report (r r' : Report) : Alike (Audit.report r) (Audit.report r') :=
  ⟨fun _ _ same => ⟨rfl, same.session, same.names, same.tally⟩⟩

theorem checkpoint : Alike Audit.checkpoint Audit.checkpoint := by
  refine ⟨fun v w same => ?_⟩
  rw [run_checkpoint, run_checkpoint, same.session]
  exact ⟨rfl, same⟩

theorem onSession (work : Session.Work α) : Alike (Audit.onSession work) (Audit.onSession work) := by
  refine ⟨fun v w same => ?_⟩
  cases ran : runOn work v.session with
  | mk answer session =>
    have ran' : runOn work w.session = (answer, session) := by rw [← same.session, ran]
    cases answer with
    | ok a =>
      rw [run_onSession_ok ran, run_onSession_ok ran']
      exact ⟨rfl, rfl, same.names, same.tally⟩
    | error fault =>
      rw [run_onSession_error ran, run_onSession_error ran']
      exact ⟨rfl, rfl, same.names, same.tally⟩

/-- What counts is the outcome, not what the probe is called. -/
theorem judge (p q : Probe) (o : Outcome) : Alike (Audit.judge p o) (Audit.judge q o) := by
  refine ⟨fun v w same => ?_⟩
  rw [run_judge_eq, run_judge_eq]
  refine ⟨rfl, same.session, same.names, ?_⟩
  rw [judged, judged, same.tally]

theorem step {step step' : Step} (h : step.bare = step'.bare) :
    Alike (runStep tool step) (runStep tool step') := by
  cases step with
  | checkpoint =>
    cases step' with
    | checkpoint => exact checkpoint
    | notice text => cases h
    | probe q => cases h
  | notice text =>
    cases step' with
    | checkpoint => cases h
    | notice text' => exact report ..
    | probe q => cases h
  | probe p =>
    cases step' with
    | checkpoint => cases h
    | notice text' => cases h
    | probe q =>
      obtain ⟨-, setup, call, usage⟩ := Probe.mk.inj (Step.probe.inj h)
      have lines : p.lines = q.lines := by rw [Probe.lines, setup, call, usage, Probe.lines]
      rw [runStep, runStep, lines]
      exact (onSession _).bind fun o => checkpoint.bind fun _ => judge p q o

theorem steps {front back : List Step} (h : front.map Step.bare = back.map Step.bare) :
    Alike (runSteps tool front) (runSteps tool back) := by
  induction front generalizing back with
  | nil =>
    obtain rfl : back = [] := List.map_eq_nil_iff.1 h.symm
    exact pure ()
  | cons first rest ih =>
    cases back with
    | nil => cases h
    | cons other others =>
      rw [List.map_cons, List.map_cons, List.cons.injEq] at h
      exact (step h.1).bind fun _ => ih h.2

theorem planning {x y : Planning Unit} (h : x.Alike y) :
    Alike (runPlanning tool x) (runPlanning tool y) := by
  refine ⟨fun v w same => ?_⟩
  have plans := h.run v.names
  have taken : Alike (runSteps tool (x.run v.names).steps) (runSteps tool (y.run v.names).steps) :=
    steps plans.steps
  obtain ⟨answer, after⟩ := taken.run v w same
  rw [run_planning_eq, run_planning_eq, ← same.names, ← plans.value]
  generalize runOn (runSteps tool (x.run v.names).steps) v = r at answer after
  generalize runOn (runSteps tool (y.run v.names).steps) w = r' at answer after
  obtain ⟨first, v'⟩ := r
  obtain ⟨second, w'⟩ := r'
  obtain rfl : first = second := answer
  cases first with
  | error stop => exact ⟨rfl, after⟩
  | ok _ => exact ⟨rfl, after.session, rfl, after.tally⟩

/-- The answer of a part of a run, as an answer that does not end the run. -/
theorem lift {x y : Run α} (h : Alike x y) :
    Alike (ExceptT.lift x.run : Run (Except Stop α)) (ExceptT.lift y.run) := by
  refine ⟨fun v w same => ?_⟩
  obtain ⟨answer, after⟩ := h.run v w same
  rw [runOn_lift_run, runOn_lift_run]
  exact ⟨congrArg Except.ok answer, after⟩

theorem stage {x y : Stage} (h : x.Alike y) : Alike (runStage tool x) (runStage tool y) := by
  rw [runStage, runStage, h.emptied]
  by_cases emptied : y.emptied = true
  · rw [if_pos emptied, if_pos emptied]
    refine (onSession _).bind fun _ => (onSession _).bind fun _ => ?_
    refine (planning h.planning).lift.bind fun ended => (onSession _).bind fun _ => ?_
    cases ended with
    | ok _ => exact pure ()
    | error stop => exact throw stop
  · rw [if_neg emptied, if_neg emptied]
    exact planning h.planning

theorem stages {x y : List Stage} (h : List.Forall₂ Stage.Alike x y) :
    Alike (runStages tool x) (runStages tool y) := by
  induction h with
  | nil => exact pure ()
  | cons first _ ih => exact (stage first).bind fun _ => ih

end Run.Alike

/-- However calls are described, a run ends the same way, shows the tool the same and counts the
same, whatever the tool does. -/
theorem run_worded (tool : Tool) (a : Audit) (nameOnly : Bool) (names : NameSupply)
    (types : List TypeInfo) (functions : List Callable) (s : Session) :
    let worded := (a.worded nameOnly).run tool names types functions s
    let ended := a.run tool names types functions s
    worded.1 = ended.1 ∧ worded.2.Alike ended.2 := by
  simp only [run_eq]
  have alike : Run.Alike (runStages tool ((a.worded nameOnly).stages types functions))
      (runStages tool (a.stages types functions)) :=
    .stages (alike_stages a nameOnly types functions)
  obtain ⟨answer, after⟩ :=
    alike.run { session := s, names } { session := s, names } ⟨rfl, rfl, rfl⟩
  generalize runOn (runStages tool ((a.worded nameOnly).stages types functions))
    { session := s, names } = r at answer after
  generalize runOn (runStages tool (a.stages types functions)) { session := s, names } = r'
    at answer after
  obtain ⟨first, v⟩ := r
  obtain ⟨second, w⟩ := r'
  obtain rfl : first = second := answer
  rcases first with (_ | fault) | _
  · exact ⟨rfl, after.session, after.names, after.tally⟩
  · exact ⟨rfl, after⟩
  · exact ⟨rfl, after⟩

end Audit

end SignatureAudit
