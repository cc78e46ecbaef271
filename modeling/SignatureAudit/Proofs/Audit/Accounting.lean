import SignatureAudit.Proofs.Audit.Interruption
import SignatureAudit.Proofs.Project.Answer

/-!
# What a tally counts

The kind of an outcome settles how it counts and what is reported about it: only what passed and
what has an unknown form points at no line (`Outcome.offset_ofDiagnosis`). So the tally of a run can
be read off the answers of the tool. `Accounts` says that some verdicts come from others by events
whose endings are those answers of the tool, in their order, that came before a request to stop; the
reports and the tally are those of the events.

Nothing is asked of the tool. It may do anything to the files, which may end the run with a fault;
`Tells` is about the parts of a run that end otherwise.
-/

namespace SignatureAudit

/-! ## Kinds -/

/-- The kinds of outcomes that count as failures. -/
def Diagnosis.Kind.faulty : List Diagnosis.Kind :=
  [.error, .warning, .missingProject, .crash, .timeout]

/-- What outcomes of a kind count as. -/
def Diagnosis.Kind.counted? : Diagnosis.Kind → Option Bool
  | .clean => some true
  | .drift => none
  | .error | .warning | .missingProject | .crash | .timeout => some false

namespace Outcome

/-- The line behind the others is the first probed one. -/
theorem offsetOf_succ (before : Nat) : offsetOf (before + 1) before = 0 := by
  have first : Int64.ofNat (before + 1) - Int64.ofNat before - 1 = 0 := by
    rw [Int64.ofNat_add, Int64.add_comm, Int64.add_sub_cancel]
    rfl
  rw [offsetOf, first]
  rfl

/-- Only an outcome that passed or has an unknown form points at no line, and only a located error
points at a line of its own. -/
theorem offset_ofDiagnosis (before : Nat) (d : Diagnosis) (stdout stderr : String) :
    let o := ofDiagnosis before d stdout stderr
    (o.offset = none ↔ o.kind = .clean ∨ o.kind = .drift) ∧
      (o.kind ∈ [.warning, .missingProject, .crash, .timeout] → o.offset = some 0) := by
  intro o
  cases d with
  | clean | drift _ => simp [o, ofDiagnosis, Diagnosis.kind, Diagnosis.line?]
  | error line message => simp [o, ofDiagnosis, Diagnosis.kind, Diagnosis.line?]
  | warning _ | missingProject | crash | timeout _ =>
    simp [o, ofDiagnosis, Diagnosis.kind, Diagnosis.line?, offsetOf_succ]

theorem counted?_ofDiagnosis (before : Nat) (d : Diagnosis) (stdout stderr : String) :
    (ofDiagnosis before d stdout stderr).counted? = d.kind.counted? := by
  cases d <;> rfl

end Outcome

/-- The report about a probe that the kind of its outcome calls for. -/
inductive Probe.Agrees (p : Probe) : Diagnosis.Kind → Report → Prop
  | clean : Agrees p .clean (.success p.description)
  | drift (message : String) : Agrees p .drift (.notice (p.description
      ++ ": unrecognized diagnostic, did the output format change? " ++ message))
  | faulty {o : Outcome} (h : o.kind ∈ Diagnosis.Kind.faulty) :
    Agrees p o.kind (.failure p.description (p.site (o.offset.getD 0)) o p.lines)

theorem Probe.agrees_reportOf (p : Probe) (before : Nat) (d : Diagnosis) (stdout stderr : String) :
    p.Agrees d.kind (p.reportOf (.ofDiagnosis before d stdout stderr)) := by
  have failed (h : d.kind ∈ Diagnosis.Kind.faulty) :
      p.Agrees d.kind (p.reportOf (.ofDiagnosis before d stdout stderr)) := by
    have report : p.reportOf (.ofDiagnosis before d stdout stderr)
        = .failure p.description
          (p.site ((Outcome.ofDiagnosis before d stdout stderr).offset.getD 0))
          (.ofDiagnosis before d stdout stderr) p.lines := by
      cases d with
      | clean | drift _ => simp [Diagnosis.kind, Diagnosis.Kind.faulty] at h
      | _ => rfl
    rw [report]
    exact .faulty (o := .ofDiagnosis before d stdout stderr) h
  cases d with
  | clean => exact .clean
  | drift line => exact .drift line
  | error _ _ | warning _ | missingProject | crash | timeout _ =>
    exact failed (by simp [Diagnosis.kind, Diagnosis.Kind.faulty])

/-! ## Endings -/

theorem filterMap_singleton {α β : Type} (f : α → Option β) (a : α) :
    [a].filterMap f = (f a).toList := by
  rw [List.filterMap_cons]
  cases f a <;> rfl

namespace Tool

/-- How a run of the tool ended, unless it failed or the user asked to stop in it. -/
def Reply.ending? (r : Reply) : Option Ending :=
  if r.interrupts then none
  else
    match r.result with
    | .ok o => some (.output o)
    | .error (.timeout limit) => some (.timeout limit)
    | .error _ => none

/-- The kind of what a run of the tool says. -/
def Ending.kind (warningsAsErrors : Bool) : Ending → Diagnosis.Kind
  | .output o => (Diagnosis.diagnose o.stdout o.stderr warningsAsErrors).kind
  | .timeout _ => .timeout

end Tool

/-- The replies of the tool so far. -/
def Session.replies (tool : Tool) (s : Session) : List Tool.Reply := s.calls.toList.mapIdx tool

theorem Session.length_replies (tool : Tool) (s : Session) :
    (s.replies tool).length = s.calls.size := by
  rw [replies, List.length_mapIdx, Array.length_toList]

theorem Session.replies_push {tool : Tool} {s t : Session} {call : Tool.Call}
    (h : t.calls = s.calls.push call) :
    t.replies tool = s.replies tool ++ [tool s.calls.size call] := by
  rw [replies, h, Array.toList_push, List.mapIdx_concat, Array.length_toList]
  rfl

/-- A probe that answers tells how the run of the tool ended. -/
theorem Trial.exists_ending {base : String} {p : Probe} {warningsAsErrors : Bool}
    {result : Except Tool.Failure Tool.Output} {o : Outcome}
    (h : Session.outcomeOf warningsAsErrors (Project.BuildText.lineCount base) result = .ok o) :
    ∃ e : Tool.Ending, result = e.result ∧ o = Trial.outcome ⟨base, p⟩ warningsAsErrors e := by
  match result, h with
  | .ok output, h => exact ⟨.output output, rfl, (Except.ok.inj h).symm⟩
  | .error (.timeout limit), h => exact ⟨.timeout limit, rfl, (Except.ok.inj h).symm⟩

theorem Tool.Reply.ending?_eq {r : Reply} {e : Ending} (result : r.result = e.result) :
    r.ending? = if r.interrupts then none else some e := by
  rw [ending?, result]
  cases e <;> rfl

theorem Event.counted?_tried (t : Trial) (e : Tool.Ending) (warningsAsErrors : Bool) :
    Event.counted? warningsAsErrors (.tried t e) = (e.kind warningsAsErrors).counted? := by
  cases e <;> exact Outcome.counted?_ofDiagnosis ..

theorem Event.agrees_report (t : Trial) (e : Tool.Ending) (warningsAsErrors : Bool) :
    t.probe.Agrees (e.kind warningsAsErrors) (Event.report warningsAsErrors (.tried t e)) := by
  cases e with
  | output o => exact t.probe.agrees_reportOf ..
  | timeout limit => exact t.probe.agrees_reportOf _ (.timeout limit) "" ""

/-! ## Counting -/

theorem Tally.recordAll_eq (t : Tally) (checks : List Bool) :
    t.recordAll checks
      = ⟨t.successes + checks.count true, t.failures + checks.count false⟩ := by
  induction checks generalizing t with
  | nil => rfl
  | cons passed rest ih =>
    have step : t.recordAll (passed :: rest) = (t.record passed).recordAll rest := rfl
    rw [step, ih]
    cases passed <;> simp [record, Nat.add_assoc, Nat.add_comm 1]

/-- What events count as depends on the kinds of their endings. -/
theorem filterMap_counted? (warningsAsErrors : Bool) (events : List Event) :
    events.filterMap (Event.counted? warningsAsErrors)
      = ((triedIn events).map fun (_, e) => e.kind warningsAsErrors).filterMap
          Diagnosis.Kind.counted? := by
  induction events with
  | nil => rfl
  | cons event rest ih =>
    cases event with
    | notice text => exact ih
    | tried t e =>
      rw [List.filterMap_cons, Event.counted?_tried, triedIn_tried, List.map_cons,
        List.filterMap_cons, ih]

theorem count_true_counted? (kinds : List Diagnosis.Kind) :
    (kinds.filterMap Diagnosis.Kind.counted?).count true = kinds.count .clean := by
  induction kinds with
  | nil => rfl
  | cons kind rest ih => cases kind <;> simp [List.filterMap_cons, Diagnosis.Kind.counted?, ih]

theorem count_false_counted? (kinds : List Diagnosis.Kind) :
    (kinds.filterMap Diagnosis.Kind.counted?).count false
      = kinds.countP (· ∈ Diagnosis.Kind.faulty) := by
  induction kinds with
  | nil => rfl
  | cons kind rest ih =>
    cases kind <;> simp [List.filterMap_cons, Diagnosis.Kind.counted?, Diagnosis.Kind.faulty, ih]

namespace Audit

open Session (Alike textOf)

/-! ## Accounts -/

/-- The second verdicts come from the first by these events, which end as the runs of the tool in
between did, as far as these came before a request to stop. -/
structure Accounts (tool : Tool) (events : List Event) (v w : Verdicts) : Prop where
  settings : w.session.settings = v.session.settings
  calls : ∃ made, w.session.calls.toList = v.session.calls.toList ++ made ∧
    ∀ call ∈ made, call.args = v.session.settings.reconfigureArgs
  replies : ∃ made, w.session.replies tool = v.session.replies tool ++ made ∧
    made.filterMap Tool.Reply.ending? = (triedIn events).map (·.2)
  reports : w.reports.toList = v.reports.toList
    ++ events.map (Event.report v.session.settings.warningsAsErrors)
  tally : w.tally = v.tally.recordAll
    (events.filterMap (Event.counted? v.session.settings.warningsAsErrors))

namespace Accounts

variable {tool : Tool} {front back : List Event} {v w x : Verdicts}

theorem append (hfront : Accounts tool front v w) (hback : Accounts tool back w x) :
    Accounts tool (front ++ back) v x where
  settings := hback.settings.trans hfront.settings
  calls := by
    obtain ⟨made, grown, args⟩ := hfront.calls
    obtain ⟨made', grown', args'⟩ := hback.calls
    rw [hfront.settings] at args'
    exact ⟨made ++ made', by rw [grown', grown, List.append_assoc],
      List.forall_mem_append.2 ⟨args, args'⟩⟩
  replies := by
    obtain ⟨made, grown, same⟩ := hfront.replies
    obtain ⟨made', grown', same'⟩ := hback.replies
    refine ⟨made ++ made', ?_, ?_⟩
    · rw [grown', grown, List.append_assoc]
    · rw [List.filterMap_append, same, same', triedIn_append, List.map_append]
  reports := by
    rw [hback.reports, hfront.reports, hfront.settings, List.map_append, List.append_assoc]
  tally := by
    rw [hback.tally, hfront.tally, hfront.settings, List.filterMap_append,
      Tally.recordAll_append]

/-- What runs no tool and counts nothing comes by notices alone. -/
theorem notices {notes : List String} (session : Alike v.session w.session)
    (reports : w.reports.toList = v.reports.toList ++ notes.map Report.notice)
    (tally : w.tally = v.tally) : Accounts tool (notes.map Event.notice) v w where
  settings := session.settings
  calls := ⟨[], by rw [session.calls, List.append_nil], List.forall_mem_nil _⟩
  replies := by
    refine ⟨[], ?_, ?_⟩
    · rw [Session.replies, session.calls, List.append_nil]
      rfl
    · rw [triedIn_notices]
      rfl
  reports := by
    rw [reports, List.map_map]
    rfl
  tally := by
    rw [tally, filterMap_counted?, triedIn_notices]
    rfl

/-- What reports nothing either comes without events. -/
theorem of_alike (session : Alike v.session w.session) (reports : w.reports = v.reports)
    (tally : w.tally = v.tally) : Accounts tool [] v w :=
  notices session (by rw [reports, List.map_nil, List.append_nil]) tally

end Accounts

/-- A part of a run that no fault ends comes about by events, and is broken off exactly if the user
asked to stop. -/
structure Tells {α : Type} (tool : Tool) (v : Verdicts) (r : Except Stop α × Verdicts) : Prop where
  going : ∀ a, r.1 = .ok a → r.2.session.interrupted = false
  stopped : r.1 = .error .interrupted → r.2.session.interrupted = true
  events : (∀ fault, r.1 ≠ .error (.fault fault)) → ∃ events, Accounts tool events v r.2

namespace Tells

variable {α β : Type} {tool : Tool} {v w : Verdicts}

theorem of_ok {a : α} {events : List Event} (going : w.session.interrupted = false)
    (accounts : Accounts tool events v w) : Tells tool v (Except.ok a, w) where
  going _ _ := going
  stopped stop := by cases stop
  events _ := ⟨events, accounts⟩

theorem of_interrupted {events : List Event} (asked : w.session.interrupted = true)
    (accounts : Accounts tool events v w) :
    Tells tool v ((.error .interrupted, w) : Except Stop α × Verdicts) where
  going a ok := by cases ok
  stopped _ := asked
  events _ := ⟨events, accounts⟩

theorem of_fault (tool : Tool) (v w : Verdicts) (fault : Project.Fault) :
    Tells tool v ((.error (.fault fault), w) : Except Stop α × Verdicts) where
  going a ok := by cases ok
  stopped stop := by cases stop
  events unharmed := absurd rfl (unharmed fault)

/-- What comes behind a part of a run that accounts for some events. -/
theorem after {events : List Event} {r : Except Stop α × Verdicts}
    (accounts : Accounts tool events v w) (h : Tells tool w r) : Tells tool v r where
  going := h.going
  stopped := h.stopped
  events unharmed := by
    obtain ⟨more, accounts'⟩ := h.events unharmed
    exact ⟨events ++ more, accounts.append accounts'⟩

theorem bind {x : Run α} {f : α → Run β} (hx : Tells tool v (runOn x v))
    (hf : ∀ a w, w.session.interrupted = false → Tells tool w (runOn (f a) w)) :
    Tells tool v (runOn (x >>= f) v) := by
  cases ran : runOn x v with
  | mk answer w =>
    rw [ran] at hx
    -- the first part was interrupted, failed or goes on
    rcases answer with (_ | fault) | a
    · rw [runOn_bind_error ran]
      obtain ⟨events, accounts⟩ := hx.events fun _ same => by cases same
      exact of_interrupted (hx.stopped rfl) accounts
    · rw [runOn_bind_error ran]
      exact of_fault tool v w fault
    · rw [runOn_bind_ok ran]
      obtain ⟨events, accounts⟩ := hx.events fun _ same => by cases same
      exact after accounts (hf a w (hx.going a rfl))

/-- Work on the files alone comes without events. -/
theorem files {work : Session.Work α} (files : ∀ s, Alike s (runOn work s).2)
    (going : v.session.interrupted = false) : Tells tool v (runOn (onSession work) v) := by
  have alike := files v.session
  cases ran : runOn work v.session with
  | mk answer s =>
    rw [ran] at alike
    cases answer with
    | error fault =>
      rw [run_onSession_error ran]
      exact of_fault tool v _ fault
    | ok a =>
      rw [run_onSession_ok ran]
      exact of_ok (alike.interrupted.trans going) (.of_alike alike rfl rfl)

/-- Work on the files that is done however a part of a run ended. -/
theorem lastly {x : Run Unit} {work : Session.Work Unit} (hx : Tells tool v (runOn x v))
    (files : ∀ s, Alike s (runOn work s).2) : Tells tool v (runOn (Audit.lastly x work) v) := by
  rw [run_lastly]
  generalize runOn x v = r at hx
  obtain ⟨ended, w⟩ := r
  have alike := files w.session
  generalize hwork : runOn work w.session = worked at alike
  obtain ⟨answer, s⟩ := worked
  have unrecorded : Accounts tool [] w { w with session := s } := .of_alike alike rfl rfl
  simp only [hwork]
  cases answer with
  | error fault => exact of_fault tool v _ fault
  | ok _ =>
    rcases ended with (_ | fault) | _
    · obtain ⟨events, accounts⟩ := hx.events fun _ same => by cases same
      exact of_interrupted (alike.interrupted.trans (hx.stopped rfl)) (accounts.append unrecorded)
    · exact of_fault tool v _ fault
    · obtain ⟨events, accounts⟩ := hx.events fun _ same => by cases same
      exact of_ok (alike.interrupted.trans (hx.going () rfl)) (accounts.append unrecorded)

end Tells

/-! ## Parts of a run -/

section

variable {tool : Tool} {v : Verdicts}

theorem tells_probe (going : v.session.interrupted = false) (p : Probe) :
    Tells tool v (runOn (runStep tool (.probe p)) v) := by
  cases ran : runOn (Session.probe tool p.lines) v.session with
  | mk answer t =>
    cases answer with
    | error fault =>
      rw [run_probe_error ran]
      exact .of_fault tool v _ fault
    | ok o =>
      obtain ⟨text, tree, -, -, outcome, alike⟩ := Session.exists_reply_of_probe ran
      let reply := tool v.session.calls.size (v.session.probeCall tree)
      obtain ⟨e, result, rfl⟩ := Trial.exists_ending (p := p) outcome
      have asked : t.interrupted = reply.interrupts := by
        rw [alike.interrupted]
        show (v.session.interrupted || _) = _
        rw [going, Bool.false_or]
      have called : ∃ made, t.calls.toList = v.session.calls.toList ++ made ∧
          ∀ call ∈ made, call.args = v.session.settings.reconfigureArgs :=
        ⟨[v.session.probeCall tree], (congrArg Array.toList alike.calls).trans Array.toList_push,
          List.forall_mem_singleton.2 rfl⟩
      have grown : t.replies tool = v.session.replies tool ++ [reply] :=
        Session.replies_push alike.calls
      have ending : [reply].filterMap Tool.Reply.ending?
          = (if reply.interrupts then none else some e).toList := by
        rw [filterMap_singleton, Tool.Reply.ending?_eq (r := reply) result]
      -- a request to stop discards the answer: the call stands recorded without an event
      by_cases stop : t.interrupted = true
      · rw [run_probe_interrupted ran stop]
        rw [asked] at stop
        rw [if_pos stop] at ending
        have accounts : Accounts tool [] v { v with session := t } :=
          ⟨alike.settings, called, ⟨[reply], grown, ending⟩, (List.append_nil _).symm, rfl⟩
        exact .of_interrupted (asked.trans stop) accounts
      · have silent : t.interrupted = false := by simpa using stop
        rw [run_probe_judged ran silent, run_judge_eq]
        rw [asked] at stop
        rw [if_neg stop] at ending
        have accounts : Accounts tool [.tried ⟨text, p⟩ e] v (judged p _ { v with session := t }) :=
          ⟨alike.settings, called, ⟨[reply], grown, ending⟩, Array.toList_push,
            congrArg v.tally.recordAll (filterMap_singleton _ _).symm⟩
        exact .of_ok silent accounts

theorem tells_step (going : v.session.interrupted = false) (step : Step) :
    Tells tool v (runOn (runStep tool step) v) := by
  cases step with
  | checkpoint =>
    have passed := run_checkpoint v
    rw [if_neg (by simp [going])] at passed
    rw [runStep, passed]
    exact .of_ok going (.of_alike (.refl _) rfl rfl)
  | notice text =>
    rw [runStep, run_report]
    have accounts : Accounts tool ([text].map Event.notice) v
        { v with reports := v.reports.push (.notice text) } :=
      .notices (.refl _) Array.toList_push rfl
    exact .of_ok going accounts
  | probe p => exact tells_probe going p

theorem tells_steps (tool : Tool) (going : v.session.interrupted = false) (steps : List Step) :
    Tells tool v (runOn (runSteps tool steps) v) := by
  induction steps generalizing v with
  | nil => exact .of_ok going (.of_alike (.refl _) rfl rfl)
  | cons step rest ih =>
    rw [runSteps_cons]
    exact (tells_step going step).bind fun _ w going => ih going

theorem tells_planning (going : v.session.interrupted = false) (planning : Planning Unit) :
    Tells tool v (runOn (runPlanning tool planning) v) := by
  have steps := tells_steps tool going (planning.run v.names).steps
  rw [run_planning_eq]
  generalize runOn (runSteps tool (planning.run v.names).steps) v = r at steps
  rcases r with ⟨stop | _, w⟩
  · exact ⟨fun _ ok => (by cases ok), steps.stopped, steps.events⟩
  · exact ⟨steps.going, steps.stopped, fun unharmed =>
      (steps.events unharmed).imp fun _ h => ⟨h.settings, h.calls, h.replies, h.reports, h.tally⟩⟩

theorem tells_stage (going : v.session.interrupted = false) (stage : Stage) :
    Tells tool v (runOn (runStage tool stage) v) := by
  by_cases emptied : stage.emptied = true
  · rw [runStage_of_emptied emptied]
    refine (Tells.files Session.alike_snapshot going).bind fun _ w going => ?_
    refine (Tells.files (Session.alike_write "") going).bind fun _ w going => ?_
    exact (tells_planning going stage.planning).lastly Session.alike_restore
  · rw [runStage, if_neg emptied]
    exact tells_planning going stage.planning

theorem tells_stages (tool : Tool) (going : v.session.interrupted = false) (stages : List Stage) :
    Tells tool v (runOn (runStages tool stages) v) := by
  induction stages generalizing v with
  | nil => exact .of_ok going (.of_alike (.refl _) rfl rfl)
  | cons stage rest ih =>
    rw [runStages]
    exact (tells_stage going stage).bind fun _ w going => ih going

end

/-! ## Whole runs -/

/-- A run that ends well accounts for some events, among them the notice of an interruption. -/
theorem exists_accounts_of_run {tool : Tool} {a : Audit} {names : NameSupply}
    {types : List TypeInfo} {functions : List Callable} {s : Session}
    (ok : (a.run tool names types functions s).1 = .ok ()) :
    ∃ events, Accounts tool events { session := s, names }
      (a.run tool names types functions s).2 := by
  by_cases going : s.interrupted = true
  · -- nothing but the interruption is reported
    obtain ⟨-, session, tally, reports⟩ := run_stopped tool a names types functions going
    generalize (a.run tool names types functions s).2 = w at session tally reports
    have all : w.reports.toList
        = (w.reports.toList.map fun _ => "Interrupted").map Report.notice := by
      rw [List.map_map]
      exact (List.map_id' _).symm.trans (List.map_congr_left fun r hr =>
        reports r (Array.mem_toList_iff.1 hr))
    exact ⟨_, .notices (by rw [session]; exact .refl s) all tally⟩
  · have tells := tells_stages (v := { session := s, names }) tool (by simpa using going)
      (a.stages types functions)
    rw [run_eq] at ok ⊢
    cases ran : runOn (runStages tool (a.stages types functions)) { session := s, names } with
    | mk answer w =>
      rw [ran] at ok tells
      rcases answer with (_ | fault) | _
      · obtain ⟨events, accounts⟩ := tells.events fun _ same => by cases same
        have notice : Accounts tool (["Interrupted"].map Event.notice) w
            { w with reports := w.reports.push (.notice "Interrupted") } :=
          .notices (.refl _) Array.toList_push rfl
        exact ⟨_, accounts.append notice⟩
      · cases ok
      · exact tells.events fun _ same => by cases same

/-- **A tally accounts for every run of the tool.** Whatever the tool does, in a run that ends well
each of its answers that came before a request to stop counts once, as its kind says: as a success
if it is clean, as a failure if it is faulty and not at all if its form is unknown. There is one
report about it, which agrees with that, and all other reports are notices. For the outcome of a
probe points at no line exactly if it is clean or of an unknown form, and at the first line unless
it is a located error. -/
theorem run_counts_every_answer (tool : Tool) (a : Audit) (names : NameSupply)
    (types : List TypeInfo) (functions : List Callable) (s : Session)
    (ok : (a.run tool names types functions s).1 = .ok ()) :
    let w := (a.run tool names types functions s).2
    let strict := s.settings.warningsAsErrors
    let endings := ((w.session.replies tool).drop s.calls.size).filterMap Tool.Reply.ending?
    let kinds := endings.map (Tool.Ending.kind strict)
    (∀ call ∈ w.session.calls.toList.drop s.calls.size, call.args = s.settings.reconfigureArgs) ∧
      w.tally.successes = kinds.count .clean ∧
      w.tally.failures = kinds.countP (· ∈ Diagnosis.Kind.faulty) ∧
      w.tally.total = w.tally.successes + w.tally.failures ∧
      (∃ events, (triedIn events).map (·.2) = endings ∧
        w.reports.toList = events.map (Event.report strict) ∧
        ∀ t e, .tried t e ∈ events →
          t.probe.Agrees (e.kind strict) (Event.report strict (.tried t e))) ∧
      ∀ t lines o t', runOn (Session.probe tool lines) t = (.ok o, t') →
        (o.offset = none ↔ o.kind = .clean ∨ o.kind = .drift) ∧
          (o.kind ∈ [.warning, .missingProject, .crash, .timeout] → o.offset = some 0) := by
  intro w strict endings kinds
  obtain ⟨events, accounts⟩ := exists_accounts_of_run ok
  obtain ⟨made, grown, same⟩ := accounts.replies
  -- what the run adds to the replies of the session are those that its events end with
  have own : endings = (triedIn events).map (·.2) := by
    have drop : (w.session.replies tool).drop s.calls.size = made := by
      rw [← Session.length_replies tool s]
      exact grown ▸ List.drop_left
    rw [← same, ← drop]
  have kinds_eq : kinds = (triedIn events).map fun (_, e) => e.kind strict := by
    show endings.map _ = _
    rw [own, List.map_map]
    rfl
  have tally := accounts.tally
  rw [Tally.recordAll_eq, filterMap_counted?, count_true_counted?, count_false_counted?] at tally
  refine ⟨?_, ?_, ?_, rfl, ⟨events, own.symm, accounts.reports, fun t e _ => ?_⟩,
    fun t lines o t' ran => ?_⟩
  · obtain ⟨made, grown, args⟩ := accounts.calls
    rw [show w.session.calls.toList = _ from grown, ← Array.length_toList, List.drop_left]
    exact args
  · rw [kinds_eq]
    exact (congrArg Tally.successes tally).trans (Nat.zero_add _)
  · rw [kinds_eq]
    exact (congrArg Tally.failures tally).trans (Nat.zero_add _)
  · exact Event.agrees_report t e strict
  · obtain ⟨text, tree, -, -, outcome, -⟩ := Session.exists_reply_of_probe ran
    obtain ⟨e, -, rfl⟩ := Trial.exists_ending (p := ⟨"", [], lines, []⟩) outcome
    cases e <;> exact Outcome.offset_ofDiagnosis ..

/-- A tool that lets all runs but the first take too long. -/
def dozingTool : Tool := fun number call =>
  { result := if number = 0 then .ok {} else .error (.timeout (.ofSeconds 1))
    project := call.project }

theorem run_dozing_counts_one_of_each :
    let ended := plainAudit.run dozingTool (.ofSeed 0) [] plainFunctions oneLineProject
    ended.1 = .ok () ∧ ended.2.tally = ⟨1, 1⟩ := by
  have keeps : dozingTool.KeepsBuildFile := fun _ _ => rfl
  have ends : dozingTool.Ends := fun number _ => by
    by_cases first : number = 0
    · exact ⟨.output {}, by rw [dozingTool, if_pos first]; rfl⟩
    · exact ⟨.timeout (.ofSeconds 1), by rw [dozingTool, if_neg first]; rfl⟩
  obtain ⟨ok, -⟩ := run_whole keeps ends (fun _ _ => rfl) rfl textOf_oneLineProject plainAudit
    (.ofSeed 0) [] plainFunctions
  have size := size_calls_whole keeps ends (fun _ _ => rfl) rfl textOf_oneLineProject plainAudit
    (.ofSeed 0) [] plainFunctions
  have trials : (trialsIn (plainAudit.entries "x = 1\n" (.ofSeed 0) [] plainFunctions)).length
      = 2 := rfl
  have fresh : oneLineProject.calls.size = 0 := rfl
  obtain ⟨-, successes, failures, -⟩ := run_counts_every_answer dozingTool plainAudit (.ofSeed 0) []
    plainFunctions oneLineProject ok
  rw [trials, fresh, Nat.zero_add, ← Array.length_toList] at size
  rw [fresh, List.drop_zero] at successes failures
  -- the two runs of the tool are answered alike whatever they are given
  generalize plainAudit.run dozingTool (.ofSeed 0) [] plainFunctions oneLineProject = ended
    at ok size successes failures
  obtain ⟨first, second, calls⟩ := List.length_eq_two.1 size
  have endings : (ended.2.session.replies dozingTool).filterMap Tool.Reply.ending?
      = [.output {}, .timeout (.ofSeconds 1)] := by
    rw [Session.replies, calls]
    rfl
  have kinds (strict : Bool) : [.output {}, .timeout (.ofSeconds 1)].map (Tool.Ending.kind strict)
      = [.clean, .timeout] := rfl
  rw [endings, kinds] at successes failures
  refine ⟨ok, ?_⟩
  generalize ended.2.tally = tally at successes failures
  obtain ⟨passed, failed⟩ := tally
  obtain rfl : passed = 1 := successes
  obtain rfl : failed = 1 := failures
  rfl

end Audit

end SignatureAudit
