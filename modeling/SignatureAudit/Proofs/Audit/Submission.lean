import SignatureAudit.Proofs.Audit.Run

/-!
# What a run submits

The plan of an audit is made from the fresh names alone. So whatever the tool does to the files, the
lines that a run submits are those of a front of the schedule, in its order: the run is nothing but
these probes with the saving, emptying and restoring of the build file in between
(`run_submits_front`). `Submits` says which probes lead from one session to another, and `Fronts`
what holds of each part of a run: it submits a front of its probes, and all of them if it ends well.
-/

namespace SignatureAudit.Audit

/-- What an audit does to the build file besides probing. -/
def fileWork : List (Session.Work Unit) := [Session.snapshot, Session.clear, Session.restore]

/-- The first session becomes the second one by probing the lines of these probes in this order. -/
inductive Submits (tool : Tool) : List Probe → Session → Session → Prop
  | refl (s : Session) : Submits tool [] s s
  | probe (p : Probe) (s : Session) :
    Submits tool [p] s (runOn (Session.probe tool p.lines) s).2
  | files {work : Session.Work Unit} (h : work ∈ fileWork) (s : Session) :
    Submits tool [] s (runOn work s).2
  | trans {front back : List Probe} {s t u : Session} (hfront : Submits tool front s t)
    (hback : Submits tool back t u) : Submits tool (front ++ back) s u

/-- A part of a run submits a front of some probes, and all of them if it ends well. -/
def Fronts {α : Type} (tool : Tool) (probes : List Probe) (s : Session)
    (r : Except Stop α × Verdicts) : Prop :=
  ∃ front, front <+: probes ∧ Submits tool front s r.2.session ∧ ∀ a, r.1 = .ok a → front = probes

namespace Fronts

variable {α β : Type} {tool : Tool} {probes front back : List Probe} {s : Session} {v w : Verdicts}

/-- All probes are submitted, however the part ends. -/
theorem all {r : Except Stop α × Verdicts} (h : Submits tool probes s r.2.session) :
    Fronts tool probes s r := ⟨probes, List.prefix_refl _, h, fun _ _ => rfl⟩

theorem congr {r r' : Except Stop α × Verdicts} (answer : r'.1 = r.1)
    (session : r'.2.session = r.2.session) (h : Fronts tool probes s r) :
    Fronts tool probes s r' := by
  obtain ⟨front, isFront, submits, whole⟩ := h
  exact ⟨front, isFront, by rw [session]; exact submits, fun a ok => whole a (answer ▸ ok)⟩

theorem bind {x : Run α} {f : α → Run β} (hx : Fronts tool front v.session (runOn x v))
    (hf : ∀ a w, runOn x v = (.ok a, w) → Fronts tool back w.session (runOn (f a) w)) :
    Fronts tool (front ++ back) v.session (runOn (x >>= f) v) := by
  obtain ⟨first, isFront, submits, whole⟩ := hx
  cases ran : runOn x v with
  | mk answer w =>
    rw [ran] at submits whole
    cases answer with
    | error stop =>
      -- what comes behind is not submitted
      rw [runOn_bind_error ran]
      exact ⟨first, isFront.trans (List.prefix_append _ _), submits, fun _ ok => by cases ok⟩
    | ok a =>
      obtain rfl := whole a rfl
      obtain ⟨second, isFront', submits', whole'⟩ := hf a w ran
      rw [runOn_bind_ok ran]
      exact ⟨first ++ second, (List.prefix_append_right_inj first).2 isFront',
        submits.trans submits', fun b ok => by rw [whole' b ok]⟩

/-- Work on the build file submits nothing. -/
theorem files (tool : Tool) {work : Session.Work Unit} (h : work ∈ fileWork) (v : Verdicts) :
    Fronts tool [] v.session (runOn (onSession work) v) := by
  refine all ?_
  have worked : Submits tool [] v.session (runOn work v.session).2 := .files h v.session
  cases ran : runOn work v.session with
  | mk answer t =>
    rw [ran] at worked
    cases answer with
    | error fault => rwa [run_onSession_error ran]
    | ok _ => rwa [run_onSession_ok ran]

end Fronts

/-! ## Steps -/

theorem fronts_step (tool : Tool) (step : Step) (v : Verdicts) :
    Fronts tool step.probe?.toList v.session (runOn (runStep tool step) v) := by
  refine .all ?_
  cases step with
  | checkpoint =>
    rw [runStep, run_checkpoint]
    exact .refl _
  | notice text => exact .refl _
  | probe p =>
    rw [session_probe]
    exact .probe p v.session

theorem fronts_steps (tool : Tool) (steps : List Step) (v : Verdicts) :
    Fronts tool (steps.filterMap Step.probe?) v.session (runOn (runSteps tool steps) v) := by
  induction steps generalizing v with
  | nil => exact .all (.refl _)
  | cons step rest ih =>
    have split : (step :: rest).filterMap Step.probe?
        = step.probe?.toList ++ rest.filterMap Step.probe? := by
      rw [List.filterMap_cons]
      cases step.probe? <;> rfl
    rw [runSteps_cons, split]
    exact (fronts_step tool step v).bind fun _ w _ => ih w

/-! ## Stages -/

/-- What a run of a stage submits, and which names it leaves if it ends well. -/
structure StageRun (tool : Tool) (stage : Stage) (v : Verdicts)
    (r : Except Stop Unit × Verdicts) : Prop where
  fronts : Fronts tool (stage.probes v.names) v.session r
  names : r.1 = .ok () → r.2.names = stage.namesAfter v.names

namespace StageRun

variable {tool : Tool} {stage : Stage} {v : Verdicts}

theorem planning (tool : Tool) (stage : Stage) (v : Verdicts) :
    StageRun tool stage v (runOn (runPlanning tool stage.planning) v) := by
  obtain ⟨answer, session, names⟩ := run_planning tool stage.planning v
  exact ⟨(fronts_steps tool _ v).congr answer session, names⟩

end StageRun

end SignatureAudit.Audit
