import SignatureAudit.Audit.Run
import SignatureAudit.Proofs.Audit.Schedule
import SignatureAudit.Proofs.Effect

/-!
# What the parts of a run do

One lemma for each part of a run, from a single step to a stage: what it answers on a session with
verdicts, and what it leaves. Reports and tallies never touch the session, and the steps of a plan
never touch the fresh names.

The outcome of a probe is counted as a success or as a failure, or not at all if its form is
unknown, and there is one report about it. Both are functions of the probe and of its outcome
(`run_judge_eq`), so the tally of some probes is got by counting them one after the other.
-/

namespace SignatureAudit

/-! ## Verdicts -/

/-- What an outcome counts as: whether it passed, and nothing if its form is unknown. -/
def Outcome.counted? (o : Outcome) : Option Bool :=
  if o.kind = .drift then none else some o.passed

/-- What is reported about a probe with this outcome. -/
def Probe.reportOf (p : Probe) (o : Outcome) : Report :=
  if o.kind = .drift then
    .notice (p.description
      ++ ": unrecognized diagnostic, did the output format change? " ++ o.message)
  else if o.passed then .success p.description
  else .failure p.description (p.site (o.offset.getD 0)) o p.lines

namespace Tally

/-- Counts some more checks. -/
def recordAll (t : Tally) (checks : List Bool) : Tally := checks.foldl record t

@[simp] theorem recordAll_nil (t : Tally) : t.recordAll [] = t := rfl

theorem recordAll_append (t : Tally) (front back : List Bool) :
    t.recordAll (front ++ back) = (t.recordAll front).recordAll back := List.foldl_append

end Tally

namespace Audit

/-- The verdicts after the outcome of a probe has been counted and reported. -/
def judged (p : Probe) (o : Outcome) (v : Verdicts) : Verdicts :=
  { v with
    tally := v.tally.recordAll o.counted?.toList
    reports := v.reports.push (p.reportOf o) }

theorem run_judge_eq (p : Probe) (o : Outcome) (v : Verdicts) :
    runOn (judge p o) v = (.ok (), judged p o v) := by
  rw [judge, judged, Outcome.counted?, Probe.reportOf]
  by_cases drift : o.kind = .drift
  · rw [if_pos drift, if_pos drift, if_pos drift]
    rfl
  · rw [if_neg drift, if_neg drift, if_neg drift, runOn_bind_ok (runOn_modify ..)]
    by_cases passed : o.passed
    · rw [if_pos passed, if_pos passed]
      rfl
    · rw [if_neg passed, if_neg passed]
      rfl

/-! ## Parts of a run -/

variable {tool : Tool} {v w : Verdicts}

theorem run_checkpoint (v : Verdicts) :
    runOn checkpoint v = (if v.session.interrupted then .error .interrupted else .ok (), v) := by
  rw [checkpoint, runOn_bind_ok (runOn_get v)]
  cases v.session.interrupted <;> rfl

theorem run_report (r : Report) (v : Verdicts) :
    runOn (report r) v = (.ok (), { v with reports := v.reports.push r }) := rfl

section

variable {α : Type} {work : Session.Work α} {session : Session}

theorem run_onSession_ok {a : α} (h : runOn work v.session = (.ok a, session)) :
    runOn (onSession work) v = (.ok a, { v with session }) := by
  have worked : work.run.run v.session = (.ok a, session) := h
  rw [onSession, runOn_bind_ok (runOn_get v), worked]
  rfl

theorem run_onSession_error {fault : Project.Fault}
    (h : runOn work v.session = (.error fault, session)) :
    runOn (onSession work) v = (.error (.fault fault), { v with session }) := by
  have worked : work.run.run v.session = (.error fault, session) := h
  rw [onSession, runOn_bind_ok (runOn_get v), worked]
  rfl

end

/-- A part of a run, and work on the session behind it however it ended. -/
def lastly (x : Run Unit) (work : Session.Work Unit) : Run Unit := do
  let ended ← ExceptT.lift x.run
  onSession work
  match ended with
  | .ok () => pure ()
  | .error stop => throw stop

/-- A fault in the work takes the place of how the part ended. -/
theorem run_lastly (x : Run Unit) (work : Session.Work Unit) (v : Verdicts) :
    runOn (lastly x work) v =
      let w := (runOn x v).2
      let worked := runOn work w.session
      (worked.1.mapError Stop.fault >>= fun _ => (runOn x v).1,
        { w with session := worked.2 }) := by
  rw [lastly, runOn_bind_ok (runOn_lift_run x v)]
  rcases ran : runOn x v with ⟨ended, w⟩
  rcases worked : runOn work w.session with ⟨fault | _, t⟩
  · rw [runOn_bind_error (run_onSession_error worked)]
    simp only [worked]
    rfl
  · rw [runOn_bind_ok (run_onSession_ok worked)]
    simp only [worked]
    cases ended <;> rfl

/-- A verdict always comes, and leaves the session and the names alone. -/
theorem run_judge (p : Probe) (o : Outcome) (v : Verdicts) :
    ∃ w, runOn (judge p o) v = (.ok (), w) ∧ w.session = v.session ∧ w.names = v.names :=
  ⟨judged p o v, run_judge_eq p o v, rfl, rfl⟩

/-- A probe whose work on the session fails ends the run. -/
theorem run_probe_error {p : Probe} {fault : Project.Fault} {session : Session}
    (h : runOn (Session.probe tool p.lines) v.session = (.error fault, session)) :
    runOn (runStep tool (.probe p)) v = (.error (.fault fault), { v with session }) := by
  rw [runStep, runOn_bind_error (run_onSession_error h)]

/-- What the tool said while the user asked to stop is dropped. -/
theorem run_probe_interrupted {p : Probe} {o : Outcome} {session : Session}
    (h : runOn (Session.probe tool p.lines) v.session = (.ok o, session))
    (stop : session.interrupted = true) :
    runOn (runStep tool (.probe p)) v = (.error .interrupted, { v with session }) := by
  have stopped := run_checkpoint { v with session }
  rw [if_pos stop] at stopped
  rw [runStep, runOn_bind_ok (run_onSession_ok h), runOn_bind_error stopped]

theorem run_probe_judged {p : Probe} {o : Outcome} {session : Session}
    (h : runOn (Session.probe tool p.lines) v.session = (.ok o, session))
    (going : session.interrupted = false) :
    runOn (runStep tool (.probe p)) v = runOn (judge p o) { v with session } := by
  have passed := run_checkpoint { v with session }
  rw [if_neg (by simp [going])] at passed
  rw [runStep, runOn_bind_ok (run_onSession_ok h), runOn_bind_ok passed]

/-- A probe leaves the session that its work on it leaves. -/
theorem session_probe (tool : Tool) (p : Probe) (v : Verdicts) :
    (runOn (runStep tool (.probe p)) v).2.session
      = (runOn (Session.probe tool p.lines) v.session).2 := by
  cases h : runOn (Session.probe tool p.lines) v.session with
  | mk answer session =>
    cases answer with
    | error fault => rw [run_probe_error h]
    | ok o =>
      by_cases stop : session.interrupted = true
      · rw [run_probe_interrupted h stop]
      · rw [run_probe_judged h (by simpa using stop)]
        obtain ⟨w, judged, same, -⟩ := run_judge p o { v with session }
        rw [judged]
        exact same

/-- A step stops the run only if the user asked to. -/
theorem interrupted_of_step {step : Step}
    (stopped : (runOn (runStep tool step) v).1 = .error .interrupted) :
    (runOn (runStep tool step) v).2.session.interrupted = true := by
  cases step with
  | checkpoint =>
    rw [runStep, run_checkpoint] at stopped ⊢
    by_cases asked : v.session.interrupted = true
    · exact asked
    · rw [if_neg asked] at stopped
      cases stopped
  | notice text => cases stopped
  | probe p =>
    cases h : runOn (Session.probe tool p.lines) v.session with
    | mk answer session =>
      cases answer with
      | error fault =>
        rw [run_probe_error h] at stopped
        cases stopped
      | ok o =>
        by_cases asked : session.interrupted = true
        · rw [run_probe_interrupted h asked]
          exact asked
        · rw [run_probe_judged h (by simpa using asked)] at stopped
          obtain ⟨w, judged, -, -⟩ := run_judge p o { v with session }
          rw [judged] at stopped
          cases stopped

/-! ## Plans and stages -/

/-- The steps of a plan in a row. -/
def runSteps (tool : Tool) (steps : List Step) : Run Unit := steps.forM (runStep tool)

theorem runSteps_cons (step : Step) (rest : List Step) :
    runSteps tool (step :: rest) = (do runStep tool step; runSteps tool rest) := rfl

theorem run_plan {α : Type} (p : Plan α) (v : Verdicts) :
    runOn (runPlan tool p) v
      = ((runOn (runSteps tool p.steps) v).1.map fun _ => p.value,
        (runOn (runSteps tool p.steps) v).2) := by
  rw [runPlan_eq, ← map_eq_pure_bind, runOn_map]
  rfl

theorem run_planning_eq (tool : Tool) (planning : Planning Unit) (v : Verdicts) :
    runOn (runPlanning tool planning) v =
      match runOn (runSteps tool (planning.run v.names).steps) v with
      | (.ok (), w) => (.ok (), { w with names := (planning.run v.names).value.2 })
      | (.error stop, w) => (.error stop, w) := by
  rw [runPlanning, runOn_bind_ok (runOn_get v), runOn_bind, run_plan]
  generalize runOn (runSteps tool (planning.run v.names).steps) v = r
  rcases r with ⟨stop | _, w⟩ <;> rfl

/-- A stage ends as its steps do. The names that it drew are used up once all steps were taken. -/
theorem run_planning (tool : Tool) (planning : Planning Unit) (v : Verdicts) :
    let steps := runOn (runSteps tool (planning.run v.names).steps) v
    let ended := runOn (runPlanning tool planning) v
    ended.1 = steps.1 ∧ ended.2.session = steps.2.session ∧
      (ended.1 = .ok () → ended.2.names = (planning.run v.names).value.2) := by
  simp only [run_planning_eq]
  generalize runOn (runSteps tool (planning.run v.names).steps) v = r
  rcases r with ⟨stop | _, w⟩
  · refine ⟨rfl, rfl, fun well => ?_⟩
    cases well
  · exact ⟨rfl, rfl, fun _ => rfl⟩

theorem runStage_of_emptied {stage : Stage} (h : stage.emptied = true) :
    runStage tool stage = (do
      onSession Session.snapshot
      onSession Session.clear
      lastly (runPlanning tool stage.planning) Session.restore) := by
  rw [runStage, if_pos h]
  rfl

/-- A run is that of its stages, and a request to stop ends it well. -/
theorem run_eq (tool : Tool) (a : Audit) (names : NameSupply) (types : List TypeInfo)
    (functions : List Callable) (s : Session) :
    a.run tool names types functions s =
      match runOn (runStages tool (a.stages types functions)) { session := s, names } with
      | (.ok (), v) => (.ok (), v)
      | (.error .interrupted, v) =>
        (.ok (), { v with reports := v.reports.push (.notice "Interrupted") })
      | (.error (.fault fault), v) => (.error fault, v) := rfl

/-- A run ends with the session of its stages, and it ends well only if they all ran or the user
asked to stop. -/
theorem run_stages (tool : Tool) (a : Audit) (names : NameSupply) (types : List TypeInfo)
    (functions : List Callable) (s : Session) :
    let r := runOn (runStages tool (a.stages types functions)) { session := s, names }
    let ended := a.run tool names types functions s
    ended.2.session = r.2.session ∧
      (ended.1 = .ok () → r.1 = .ok () ∨ r.1 = .error .interrupted) := by
  simp only [run_eq]
  generalize runOn (runStages tool (a.stages types functions)) { session := s, names } = r
  rcases r with ⟨(_ | fault) | _, v⟩
  · exact ⟨rfl, fun _ => .inr rfl⟩
  · refine ⟨rfl, fun well => ?_⟩
    cases well
  · exact ⟨rfl, fun _ => .inl rfl⟩

end Audit

end SignatureAudit
