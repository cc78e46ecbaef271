import SignatureAudit.Proofs.Audit.Run
import SignatureAudit.Proofs.Project.Session

/-!
# Runs on a build file that cannot be read

Where the build file is missing or is no text, the first probe fails before the tool is run, and so
does the first attempt to put the text aside. Such a run is the same with every tool: it gives
notices, counts nothing and leaves the session as it was (`run_unreadable`).
-/

namespace SignatureAudit.Audit

open Session (textOf)

/-- A part of a run that only gives notices, the same ones with every tool. -/
def Barren {α : Type} (v : Verdicts) (part : Tool → Run α) : Prop :=
  ∃ answer w, ∃ notes : List String, w.session = v.session ∧ w.tally = v.tally ∧
    w.reports.toList = v.reports.toList ++ notes.map Report.notice ∧
    ∀ tool, runOn (part tool) v = (answer, w)

namespace Barren

variable {α β : Type} {v : Verdicts}

theorem of_eq {part : Tool → Run α} {answer : Except Stop α} {w : Verdicts}
    (session : w.session = v.session) (tally : w.tally = v.tally) (reports : w.reports = v.reports)
    (ran : ∀ tool, runOn (part tool) v = (answer, w)) : Barren v part :=
  ⟨answer, w, [], session, tally, by rw [reports, List.map_nil, List.append_nil], ran⟩

theorem bind {x : Tool → Run α} {f : Tool → α → Run β} (hx : Barren v x)
    (hf : ∀ a w, w.session = v.session → Barren w (f · a)) :
    Barren v fun tool => x tool >>= f tool := by
  obtain ⟨answer, w, notes, session, tally, reports, ran⟩ := hx
  cases answer with
  | error stop =>
    exact ⟨.error stop, w, notes, session, tally, reports, fun tool => runOn_bind_error (ran tool)⟩
  | ok a =>
    obtain ⟨answer', w', notes', session', tally', reports', ran'⟩ := hf a w session
    refine ⟨answer', w', notes ++ notes', session'.trans session, tally'.trans tally, ?_, ?_⟩
    · rw [reports', reports, List.map_append, List.append_assoc]
    · intro tool
      rw [runOn_bind_ok (ran tool), ran']

end Barren

section

variable {v : Verdicts} {fault : Project.Fault}

theorem barren_step (unreadable : textOf v.session.tree = .error fault) (step : Step) :
    Barren v (runStep · step) := by
  cases step with
  | checkpoint => exact .of_eq rfl rfl rfl fun _ => run_checkpoint v
  | notice text =>
    refine ⟨.ok (), { v with reports := v.reports.push (.notice text) }, [text], rfl, rfl, ?_,
      fun _ => rfl⟩
    exact Array.toList_push
  | probe p =>
    exact .of_eq rfl rfl rfl fun tool =>
      run_probe_error (Session.run_probe_unreadable unreadable tool p.lines)

theorem barren_steps (unreadable : textOf v.session.tree = .error fault) (steps : List Step) :
    Barren v (runSteps · steps) := by
  induction steps generalizing v with
  | nil => exact .of_eq rfl rfl rfl fun _ => rfl
  | cons step rest ih =>
    refine (barren_step unreadable step).bind fun _ w same => ih ?_
    rw [same, unreadable]

theorem barren_planning (unreadable : textOf v.session.tree = .error fault)
    (planning : Planning Unit) : Barren v (runPlanning · planning) := by
  obtain ⟨answer, w, notes, session, tally, reports, ran⟩ :=
    barren_steps unreadable (planning.run v.names).steps
  cases answer with
  | error stop =>
    refine ⟨.error stop, w, notes, session, tally, reports, fun tool => ?_⟩
    rw [run_planning_eq, ran]
  | ok _ =>
    refine ⟨.ok (), { w with names := (planning.run v.names).value.2 }, notes, session, tally,
      reports, fun tool => ?_⟩
    rw [run_planning_eq, ran]

theorem barren_stage (unreadable : textOf v.session.tree = .error fault) (stage : Stage) :
    Barren v (runStage · stage) := by
  by_cases emptied : stage.emptied = true
  · -- the text that cannot be read cannot be put aside
    have saved : runOn Session.snapshot v.session = (.error fault, v.session) := by
      have read := Session.run_content v.session
      rw [unreadable] at read
      rw [Session.snapshot, runOn_bind_error read]
    have ran (tool : Tool) : runOn (runStage tool stage) v = (.error (.fault fault), v) := by
      rw [runStage, if_pos emptied, runOn_bind_error (run_onSession_error saved)]
    exact .of_eq rfl rfl rfl ran
  · simp only [runStage, if_neg emptied]
    exact barren_planning unreadable stage.planning

theorem barren_stages (unreadable : textOf v.session.tree = .error fault) (stages : List Stage) :
    Barren v (runStages · stages) := by
  induction stages generalizing v with
  | nil => exact .of_eq rfl rfl rfl fun _ => rfl
  | cons stage rest ih =>
    refine (barren_stage unreadable stage).bind fun _ w same => ih ?_
    rw [same, unreadable]

end

/-- A run on a build file that cannot be read gives notices, the same ones with every tool, and
leaves the session alone. -/
theorem run_unreadable {s : Session} {fault : Project.Fault}
    (unreadable : textOf s.tree = .error fault) (a : Audit) (names : NameSupply)
    (types : List TypeInfo) (functions : List Callable) :
    ∃ answer w, ∃ notes : List String, w.session = s ∧ w.tally = {} ∧
      w.reports.toList = notes.map Report.notice ∧
      ∀ tool, a.run tool names types functions s = (answer, w) := by
  obtain ⟨answer, w, notes, session, tally, reports, ran⟩ :=
    barren_stages (v := { session := s, names }) unreadable (a.stages types functions)
  rcases answer with (_ | fault) | _
  · refine ⟨.ok (), { w with reports := w.reports.push (.notice "Interrupted") },
      notes ++ ["Interrupted"], session, tally, ?_, fun tool => ?_⟩
    · rw [Array.toList_push, reports, List.map_append, List.append_assoc]
      rfl
    · rw [run_eq, ran]
  · exact ⟨.error fault, w, notes, session, tally, reports, fun tool => by rw [run_eq, ran]⟩
  · exact ⟨.ok (), w, notes, session, tally, reports, fun tool => by rw [run_eq, ran]⟩

end SignatureAudit.Audit
