import SignatureAudit.Audit.Coverage
import SignatureAudit.Audit.Report
import SignatureAudit.Project.Session

/-!
# Running an audit

The plan of each stage is run step by step on a session. Each probe that ends before a request to
stop is counted and reported; an outcome in an unknown form is only noticed. A request to stop ends
the run with the tally so far, a fault of the project ends it without one. Running a plan is running
the list of its steps (`runPlan_eq`).
-/

namespace SignatureAudit

/-- A session with the verdicts so far. -/
structure Verdicts where
  session : Session
  /-- The names that are still fresh. -/
  names : NameSupply
  tally : Tally := {}
  reports : Array Report := #[]

namespace Audit

/-- Why a run ends early. -/
inductive Stop
  /-- The user asked to stop. -/
  | interrupted
  | fault (fault : Project.Fault)
  deriving DecidableEq, Repr

/-- A part of a run. -/
abbrev Run := ExceptT Stop (StateM Verdicts)

/-- Adds a report. -/
def report (r : Report) : Run Unit := modify fun v => { v with reports := v.reports.push r }

/-- Ends the run if the user asked to stop. -/
def checkpoint : Run Unit := do
  if (← get).session.interrupted then throw .interrupted

/-- Works on the session; a fault ends the run. -/
def onSession {α : Type} (work : Session.Work α) : Run α := do
  let v ← get
  let (answer, session) := work.run.run v.session
  set { v with session }
  match answer with
  | .ok a => pure a
  | .error fault => throw (.fault fault)

/-- Counts and reports the outcome of a probe. -/
def judge (p : Probe) (o : Outcome) : Run Unit := do
  if o.kind = .drift then
    report (.notice (p.description
      ++ ": unrecognized diagnostic, did the output format change? " ++ o.message))
  else
    modify fun v => { v with tally := v.tally.record o.passed }
    if o.passed then report (.success p.description)
    else report (.failure p.description (p.site (o.offset.getD 0)) o p.lines)

/-- Runs one step. What the tool says while the user asks to stop is no verdict. -/
def runStep (tool : Tool) : Step → Run Unit
  | .checkpoint => checkpoint
  | .notice text => report (.notice text)
  | .probe p => do
    let outcome ← onSession (Session.probe tool p.lines)
    checkpoint
    judge p outcome

/-- Runs a plan. -/
def runPlan (tool : Tool) {α : Type} : Plan α → Run α
  | .done value => pure value
  | .step first next => do
    runStep tool first
    runPlan tool (next ())

theorem runPlan_eq (tool : Tool) {α : Type} (p : Plan α) :
    runPlan tool p = p.steps.forM (runStep tool) >>= fun () => pure p.value := by
  induction p with
  | done value => rfl
  | step first next ih => simp [runPlan, Plan.steps, Plan.value, ih]

/-- Plans the steps of a stage and runs them. -/
def runPlanning (tool : Tool) (planning : Planning Unit) : Run Unit := do
  let ((), names) ← runPlan tool (planning.run (← get).names)
  modify fun v => { v with names }

/-- Runs a stage. An emptied build file gets its text back however the steps end. -/
def runStage (tool : Tool) (stage : Stage) : Run Unit := do
  if stage.emptied then
    onSession Session.snapshot
    onSession Session.clear
    let ended ← ExceptT.lift (runPlanning tool stage.planning).run
    onSession Session.restore
    match ended with
    | .ok () => pure ()
    | .error stop => throw stop
  else runPlanning tool stage.planning

/-- Runs some stages in order. -/
def runStages (tool : Tool) : List Stage → Run Unit
  | [] => pure ()
  | stage :: rest => do
    runStage tool stage
    runStages tool rest

/-- Audits some types and functions on a session. A request to stop is noticed and ends the run
well. -/
def run (a : Audit) (tool : Tool) (names : NameSupply) (types : List TypeInfo)
    (functions : List Callable) (session : Session) : Except Project.Fault Unit × Verdicts :=
  match (runStages tool (a.stages types functions)).run.run { session, names } with
  | (.ok (), v) => (.ok (), v)
  | (.error .interrupted, v) =>
    (.ok (), { v with reports := v.reports.push (.notice "Interrupted") })
  | (.error (.fault fault), v) => (.error fault, v)

end Audit

/-- All reports of a run as they are printed. -/
def Verdicts.printed (v : Verdicts) (console : Console) : String :=
  v.reports.foldl (fun text r => text ++ console.print r) ""

end SignatureAudit
