import SignatureAudit.Proofs.Audit.Run
import SignatureAudit.Proofs.Project.Session

/-!
# A run depends on earlier answers only

Take two tools that answer their first runs alike, up to run number `last`. A computation on a
session then does the same with both, or both tools get as far as run number `last` and have been
called alike till then, including that call (`Causal`). For whatever a call is given is worked out
from the answers to earlier calls.

This holds of running the tool once and of everything that does not run it, and `Causal.bind` hands
it on, so it holds of a probe (`causal_probe`) and of a whole run (`run_causal`). Nothing is asked
of the tools: they may fail, ask to stop and write the build file.
-/

namespace SignatureAudit

/-- Both lists start alike, up to number `last` at least. -/
def Branches {α : Type} (last : Nat) (one other : List α) : Prop :=
  ∃ front, front.length = last + 1 ∧ front <+: one ∧ front <+: other

theorem Branches.append {α : Type} {last : Nat} {one other one' other' : List α}
    (h : Branches last one other) (hone : one <+: one') (hother : other <+: other') :
    Branches last one' other' := by
  obtain ⟨front, length, front_one, front_other⟩ := h
  exact ⟨front, length, front_one.trans hone, front_other.trans hother⟩

/-- Two computations make more and more calls, and do the same on each state unless both make call
number `last`, up to which their calls are the same. The calls are read off the state. -/
structure Causal {ε σ α : Type} (calls : σ → List Tool.Call) (last : Nat)
    (x y : ExceptT ε (StateM σ) α) : Prop where
  grows : ∀ s, calls s <+: calls (runOn x s).2
  grows' : ∀ s, calls s <+: calls (runOn y s).2
  alike : ∀ s, runOn x s = runOn y s ∨
    Branches last (calls (runOn x s).2) (calls (runOn y s).2)

namespace Causal

variable {ε σ α β : Type} {calls : σ → List Tool.Call} {last : Nat}

/-- What makes no calls does the same. -/
theorem same {x : ExceptT ε (StateM σ) α} (h : ∀ s, calls (runOn x s).2 = calls s) :
    Causal calls last x x where
  grows s := (h s).symm ▸ List.prefix_rfl
  grows' s := (h s).symm ▸ List.prefix_rfl
  alike _ := .inl rfl

theorem pure (a : α) : Causal calls last (Pure.pure a : ExceptT ε (StateM σ) α) (Pure.pure a) :=
  same fun _ => rfl

theorem throw (e : ε) :
    Causal calls last (MonadExcept.throw e : ExceptT ε (StateM σ) α) (MonadExcept.throw e) :=
  same fun _ => rfl

theorem get : Causal calls last (MonadState.get : ExceptT ε (StateM σ) σ) MonadState.get :=
  same fun _ => rfl

theorem bind {x y : ExceptT ε (StateM σ) α} {f g : α → ExceptT ε (StateM σ) β}
    (hx : Causal calls last x y) (hf : ∀ a, Causal calls last (f a) (g a)) :
    Causal calls last (x >>= f) (y >>= g) := by
  -- the second part adds to the calls that the first has made
  have further (s : σ) : calls (runOn x s).2 <+: calls (runOn (x >>= f) s).2 :=
    runOn_bind_keeps (p := fun t => calls (runOn x s).2 <+: calls t) List.prefix_rfl
      fun a t made => made.trans ((hf a).grows t)
  have further' (s : σ) : calls (runOn y s).2 <+: calls (runOn (y >>= g) s).2 :=
    runOn_bind_keeps (p := fun t => calls (runOn y s).2 <+: calls t) List.prefix_rfl
      fun a t made => made.trans ((hf a).grows' t)
  constructor
  · exact fun s => (hx.grows s).trans (further s)
  · exact fun s => (hx.grows' s).trans (further' s)
  · intro s
    rcases hx.alike s with equal | branched
    · cases ran : runOn x s with
      | mk answer t =>
        have ran' : runOn y s = (answer, t) := by rw [← equal, ran]
        cases answer with
        | error e => exact .inl (by rw [runOn_bind_error ran, runOn_bind_error ran'])
        | ok a =>
          rw [runOn_bind_ok ran, runOn_bind_ok ran']
          exact (hf a).alike t
    · exact .inr (branched.append (further s) (further' s))

/-- The answer as one that does not end the computation. -/
theorem lift {x y : ExceptT ε (StateM σ) α} (h : Causal calls last x y) :
    Causal calls last (ExceptT.lift x.run : ExceptT ε (StateM σ) (Except ε α))
      (ExceptT.lift y.run) := by
  constructor
  · exact h.grows
  · exact h.grows'
  · intro s
    rw [runOn_lift_run, runOn_lift_run]
    rcases h.alike s with equal | branched
    · exact .inl (by rw [equal])
    · exact .inr branched

end Causal

/-! ## Work on a session -/

namespace Session

open Project (Fault)

/-- The runs of the tool so far. -/
def called (s : Session) : List Tool.Call := s.calls.toList

variable {tool other : Tool} {last : Nat}

theorem causal_ofExcept {α : Type} (x : Except Fault α) :
    Causal called last (ofExcept x) (ofExcept x) := .same fun s => by rw [run_ofExcept]

theorem causal_content : Causal called last content content := .same fun s => by rw [run_content]

theorem causal_write (text : String) : Causal called last (write text) (write text) :=
  .bind .get fun _ => .bind (causal_ofExcept _) fun _ => .same fun _ => rfl

theorem causal_edit (f : String → Except Fault String) : Causal called last (edit f) (edit f) :=
  .bind causal_content fun _ => .bind (causal_ofExcept _) fun _ => causal_write _

theorem causal_lineCount : Causal called last lineCount lineCount :=
  .same fun s => by rw [lineCount, runOn_map, run_content]

theorem causal_appendLines (lines : List String) :
    Causal called last (appendLines lines) (appendLines lines) :=
  .bind .get fun _ => causal_edit _

theorem causal_snapshot : Causal called last snapshot snapshot :=
  .bind causal_content fun _ => .same fun _ => rfl

theorem causal_restore : Causal called last restore restore := by
  refine .bind .get fun s => ?_
  cases s.saved with
  | none => exact .throw _
  | some text => exact .bind (.same fun _ => rfl) fun _ => causal_write text

/-- A run of the tool is answered alike in front of number `last`, and made alike by then. -/
theorem causal_invoke (agree : ∀ number < last, tool number = other number) (args : List String)
    (directory : String) :
    Causal called last (invoke tool args directory) (invoke other args directory) := by
  let call (s : Session) : Tool.Call := ⟨args, directory, s.tree, s.outside⟩
  have made (tool : Tool) (s : Session) :
      called (runOn (invoke tool args directory) s).2 = called s ++ [call s] :=
    Array.toList_push
  constructor
  · intro s
    rw [made]
    exact List.prefix_append _ _
  · intro s
    rw [made]
    exact List.prefix_append _ _
  · intro s
    by_cases before : s.calls.size < last
    · have answered : tool s.calls.size = other s.calls.size := agree _ before
      have ran (tool : Tool) : runOn (invoke tool args directory) s
          = (.ok (tool s.calls.size (call s)).result,
            s.answered (call s) (tool s.calls.size (call s))) := rfl
      exact .inl (by rw [ran, ran, answered])
    · refine .inr ⟨(called s ++ [call s]).take (last + 1), ?_, ?_, ?_⟩
      · have size : (called s).length = s.calls.size := Array.length_toList
        rw [List.length_take, List.length_append, size, List.length_singleton]
        omega
      · rw [made]
        exact List.take_prefix _ _
      · rw [made]
        exact List.take_prefix _ _

theorem causal_probe (agree : ∀ number < last, tool number = other number) (lines : List String) :
    Causal called last (probe tool lines) (probe other lines) := by
  rw [probe, probe]
  refine .bind causal_lineCount fun before => .bind (causal_appendLines _) fun _ => ?_
  refine .bind .get fun s => .bind (causal_invoke agree _ _) fun result => ?_
  refine .bind (causal_edit _) fun _ => ?_
  cases result with
  | ok output => exact .pure _
  | error failure =>
    cases failure with
    | launch program reason => exact .throw _
    | timeout limit => exact .pure _
    | io reason => exact .throw _

end Session

/-! ## Parts of a run -/

namespace Audit

/-- The runs of the tool so far. -/
def called (v : Verdicts) : List Tool.Call := v.session.called

variable {tool other : Tool} {last : Nat}

theorem causal_onSession {α : Type} {x y : Session.Work α}
    (h : Causal Session.called last x y) : Causal called last (onSession x) (onSession y) := by
  have session {α : Type} (work : Session.Work α) (v : Verdicts) :
      (runOn (onSession work) v).2.session = (runOn work v.session).2 := by
    cases ran : runOn work v.session with
    | mk answer s =>
      cases answer with
      | ok a => rw [run_onSession_ok ran]
      | error fault => rw [run_onSession_error ran]
  constructor
  · intro v
    rw [called, called, session]
    exact h.grows v.session
  · intro v
    rw [called, called, session]
    exact h.grows' v.session
  · intro v
    rw [called, called, session, session]
    rcases h.alike v.session with equal | branched
    · left
      cases ran : runOn x v.session with
      | mk answer s =>
        have ran' : runOn y v.session = (answer, s) := by rw [← equal, ran]
        cases answer with
        | ok a => rw [run_onSession_ok ran, run_onSession_ok ran']
        | error fault => rw [run_onSession_error ran, run_onSession_error ran']
    · exact .inr branched

theorem causal_checkpoint : Causal called last checkpoint checkpoint :=
  .same fun v => by rw [run_checkpoint]

theorem causal_step (agree : ∀ number < last, tool number = other number) (step : Step) :
    Causal called last (runStep tool step) (runStep other step) := by
  cases step with
  | checkpoint => exact causal_checkpoint
  | notice text => exact .same fun _ => rfl
  | probe p =>
    refine .bind (causal_onSession (Session.causal_probe agree p.lines)) fun o => ?_
    refine .bind causal_checkpoint fun _ => .same fun v => ?_
    rw [run_judge_eq]
    rfl

theorem causal_plan (agree : ∀ number < last, tool number = other number) {α : Type}
    (plan : Plan α) : Causal called last (runPlan tool plan) (runPlan other plan) := by
  induction plan with
  | done value => exact .pure value
  | step first next ih => exact .bind (causal_step agree first) fun _ => ih ()

theorem causal_planning (agree : ∀ number < last, tool number = other number)
    (planning : Planning Unit) :
    Causal called last (runPlanning tool planning) (runPlanning other planning) :=
  .bind .get fun _ => .bind (causal_plan agree _) fun _ => .same fun _ => rfl

theorem causal_stage (agree : ∀ number < last, tool number = other number) (stage : Stage) :
    Causal called last (runStage tool stage) (runStage other stage) := by
  rw [runStage, runStage]
  by_cases emptied : stage.emptied = true
  · rw [if_pos emptied, if_pos emptied]
    refine .bind (causal_onSession Session.causal_snapshot) fun _ => ?_
    refine .bind (causal_onSession (Session.causal_write "")) fun _ => ?_
    refine .bind (causal_planning agree stage.planning).lift fun ended => ?_
    refine .bind (causal_onSession Session.causal_restore) fun _ => ?_
    cases ended with
    | ok _ => exact .pure ()
    | error stop => exact .throw stop
  · rw [if_neg emptied, if_neg emptied]
    exact causal_planning agree stage.planning

theorem causal_stages (agree : ∀ number < last, tool number = other number)
    (stages : List Stage) :
    Causal called last (runStages tool stages) (runStages other stages) := by
  induction stages with
  | nil => exact .pure ()
  | cons stage rest ih => exact .bind (causal_stage agree stage) fun _ => ih

/-- Two tools that answer alike up to run number `last` make the same run, or both get as far as
that and have been called alike till then. -/
theorem run_causal (agree : ∀ number < last, tool number = other number) (a : Audit)
    (names : NameSupply) (types : List TypeInfo) (functions : List Callable) (s : Session) :
    let one := a.run tool names types functions s
    let two := a.run other names types functions s
    one = two ∨ Branches last (called one.2) (called two.2) := by
  -- the notice behind a request to stop makes no call
  have calls (tool : Tool) : called (a.run tool names types functions s).2
      = called (runOn (runStages tool (a.stages types functions)) { session := s, names }).2 := by
    rw [called, (run_stages tool a names types functions s).1]
    rfl
  intro one two
  rcases (causal_stages agree (a.stages types functions)).alike { session := s, names } with
    equal | branched
  · exact .inl (by simp only [one, two, run_eq, equal])
  · right
    rw [calls tool, calls other]
    exact branched

end Audit

end SignatureAudit
