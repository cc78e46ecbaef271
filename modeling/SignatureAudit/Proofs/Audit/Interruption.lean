import SignatureAudit.Proofs.Audit.Causality
import SignatureAudit.Proofs.Audit.Independence

/-!
# Interrupted runs

A run in which the user asks to stop during some run of the tool is a front of the run in which the
user does not. Up to that moment nothing differs (`run_causal`), the request ends the run right
behind it (`run_cut`), and so the calls, the endings, the events and with them the reports and the
tally are those of a front. A request in front of the start is honoured before anything else is done
(`run_stopped`).
-/

namespace SignatureAudit

open Session (textOf)

/-- The first tool up to run number `last`, in which the user asks to stop. The request reaches the
tool as well, so its answer to that run may be any other. -/
structure Tool.StoppedIn (last : Nat) (tool other : Tool) : Prop where
  agree : ∀ number < last, other number = tool number
  asked : ∀ call, (other last call).interrupts = true

/-! ## Fronts of events -/

/-- The events in front of a trial, given the number of trials in front of it. -/
def eventsBefore : Nat → List Event → List Event
  | _, [] => []
  | n, .notice text :: rest => .notice text :: eventsBefore n rest
  | 0, .tried .. :: _ => []
  | n + 1, .tried t e :: rest => .tried t e :: eventsBefore n rest

theorem eventsBefore_append (front : List Event) (t : Trial) (e : Tool.Ending)
    (rest : List Event) :
    eventsBefore (triedIn front).length (front ++ .tried t e :: rest) = front := by
  induction front with
  | nil => rfl
  | cons event more ih =>
    cases event with
    | notice text => exact congrArg (Event.notice text :: ·) ih
    | tried t' e' => exact congrArg (Event.tried t' e' :: ·) ih

/-- Events are told by what they come from and by how the tool ended. -/
theorem events_ext {front front' : List Event}
    (entries : front.map Event.entry = front'.map Event.entry)
    (endings : (triedIn front).map (·.2.result) = (triedIn front').map (·.2.result)) :
    front = front' := by
  induction front generalizing front' with
  | nil => exact (List.map_eq_nil_iff.1 entries.symm).symm
  | cons event rest ih =>
    cases front' with
    | nil => cases entries
    | cons event' rest' =>
      rw [List.map_cons, List.map_cons, List.cons.injEq] at entries
      obtain ⟨first, others⟩ := entries
      cases event with
      | notice text =>
        cases event' with
        | notice text' =>
          rw [ih others endings, Entry.notice.inj first]
        | tried t' e' => cases first
      | tried t e =>
        cases event' with
        | notice text' => cases first
        | tried t' e' =>
          rw [triedIn_tried, triedIn_tried, List.map_cons, List.map_cons,
            List.cons.injEq] at endings
          have ending : e = e' := Tool.Ending.result_inj endings.1
          rw [ih others endings.2, Entry.trial.inj first, ending]

/-- Two tools that answer alike up to some run, and are called alike till then, give the same
answers till then. -/
theorem Session.take_answers {tool other : Tool} {last : Nat}
    (agree : ∀ number < last, other number = tool number) {s t : Session}
    (same : s.calls.toList.take last = t.calls.toList.take last) :
    (s.answers other).take last = (t.answers tool).take last := by
  refine List.ext_getElem? fun i => ?_
  rw [List.getElem?_take, List.getElem?_take]
  by_cases before : i < last
  · have call := congrArg (·[i]?) same
    simp only [List.getElem?_take, if_pos before] at call
    rw [if_pos before, if_pos before, answers, answers, List.getElem?_mapIdx,
      List.getElem?_mapIdx, call, agree i before]
  · rw [if_neg before, if_neg before]

namespace Audit

/-! ## A request in front of the start -/

/-- The first stage of a check starts with a checkpoint. -/
theorem checkpoint_first (a : Audit) (check : Check) :
    ∃ planning rest, check.stages a = { planning } :: rest ∧
      ∀ names, ∃ more, (planning.run names).steps = .checkpoint :: more := by
  cases check with
  | type t => exact ⟨a.planType t, [], rfl, fun names => ⟨_, rfl⟩⟩
  | function f =>
    rw [Check.stages, functionStages]
    by_cases first : isProjectCall f.name f.receiver = true
    · rw [if_pos first]
      exact ⟨_, _, rfl, fun names => ⟨_, rfl⟩⟩
    · rw [if_neg first]
      exact ⟨_, _, rfl, fun names => ⟨_, rfl⟩⟩

/-- If the user has asked to stop before the start, nothing is done. -/
theorem run_stopped (tool : Tool) (a : Audit) (names : NameSupply) (types : List TypeInfo)
    (functions : List Callable) {s : Session} (asked : s.interrupted = true) :
    let ended := a.run tool names types functions s
    ended.1 = .ok () ∧ ended.2.session = s ∧ ended.2.tally = {} ∧
      ∀ r ∈ ended.2.reports, r = .notice "Interrupted" := by
  rw [run_eq, stages_eq]
  cases checks types functions with
  | nil => exact ⟨rfl, rfl, rfl, fun r among => absurd among (Array.not_mem_empty r)⟩
  | cons check others =>
    obtain ⟨planning, rest, stages, steps⟩ := checkpoint_first a check
    obtain ⟨more, first⟩ := steps names
    have stopped : runOn (runStages tool ((check :: others).flatMap (Check.stages a)))
        { session := s, names } = (.error .interrupted, { session := s, names }) := by
      have checked := run_checkpoint { session := s, names }
      rw [if_pos asked] at checked
      have stage : runOn (runPlanning tool planning) { session := s, names }
          = (.error .interrupted, { session := s, names }) := by
        rw [run_planning_eq, first, runSteps_cons]
        rw [runOn_bind_error (x := runStep tool .checkpoint) checked]
      rw [List.flatMap_cons, stages, List.cons_append, runStages]
      exact runOn_bind_error stage
    rw [stopped]
    exact ⟨rfl, rfl, rfl, fun r among => by simpa using among⟩

/-! ## A request during a run of the tool -/

section

variable {tool other : Tool} {last : Nat} {s : Session} {start : String}

/-- Up to the run of the tool in which the user asks to stop, the calls are those of the run without
the request. -/
theorem calls_cut (stopped : tool.StoppedIn last other) {a : Audit} {names : NameSupply}
    {types : List TypeInfo} {functions : List Callable}
    (going : (a.run tool names types functions s).2.session.interrupted = false)
    (asked : (a.run other names types functions s).2.session.interrupted = true)
    (size : (a.run other names types functions s).2.session.calls.size = last + 1) :
    (a.run other names types functions s).2.session.calls.toList
      = (a.run tool names types functions s).2.session.calls.toList.take (last + 1) := by
  have agree : ∀ number < last, tool number = other number :=
    fun number before => (stopped.agree number before).symm
  rcases run_causal agree a names types functions s with equal | ⟨front, length, whole, cut⟩
  · rw [equal, asked] at going
    cases going
  · have all : front = (a.run other names types functions s).2.session.calls.toList := by
      refine cut.eq_of_length ?_
      rw [length]
      exact size.symm.trans Array.length_toList.symm
    rw [all] at whole length
    rw [← length]
    exact List.prefix_iff_eq_take.1 whole

/-- The events of a run with a request to stop are those in front of the trial during which the user
asks. -/
theorem events_cut (stopped : tool.StoppedIn last other) {v w w' : Verdicts}
    {events front : List Event} {trial : Trial} {ending : Tool.Ending} {rest : List Entry}
    (follows : Follows tool events none v w)
    (follows' : Follows other front (some (trial, ending)) v w')
    (split : events.map Event.entry = front.map Event.entry ++ .trial trial :: rest)
    (calls : w'.session.calls.toList = w.session.calls.toList.take (last + 1))
    (size : last = v.session.calls.size + (triedIn front).length) :
    eventsBefore (triedIn front).length events = front := by
  obtain ⟨done, more, rfl, entries, others⟩ := List.map_eq_append_iff.1 split
  obtain ⟨event, behind, rfl, here, -⟩ := List.map_eq_cons_iff.1 others
  have as_long : (triedIn done).length = (triedIn front).length := by
    rw [← List.length_map (·.1), map_fst_triedIn, entries, ← map_fst_triedIn, List.length_map]
  -- both tools have given the same answers up to the request
  have answers : (w'.session.answers other).take last = (w.session.answers tool).take last := by
    refine Session.take_answers stopped.agree ?_
    rw [calls, List.take_take, Nat.min_eq_left (by omega)]
  have before (tool : Tool) (all : List (Trial × Tool.Ending))
      (result : Trial × Tool.Ending → Except Tool.Failure Tool.Output) :
      (v.session.answers tool ++ all.map result).take last
        = v.session.answers tool ++ (all.take (triedIn front).length).map result := by
    rw [size, ← v.session.length_answers tool, List.take_length_add_append, List.map_take]
  rw [follows.answers, follows'.answers, before, before] at answers
  have endings := List.append_inj_right answers (by simp [Session.answers])
  rw [List.take_left' rfl, triedIn_append, List.append_assoc, List.take_left' as_long] at endings
  have same : done = front := events_ext entries endings.symm
  cases event with
  | notice text => cases here
  | tried t e => rw [← as_long, eventsBefore_append, same]

/-- A run in which the user does not ask to stop runs the tool once for each trial in store. -/
theorem size_calls_whole (keeps : tool.KeepsBuildFile) (ends : tool.Ends) (quiet : tool.Quiet)
    (going : s.interrupted = false) (readable : textOf s.tree = .ok start) (a : Audit)
    (names : NameSupply) (types : List TypeInfo) (functions : List Callable) :
    (a.run tool names types functions s).2.session.calls.size
      = s.calls.size + (trialsIn (a.entries start names types functions)).length := by
  obtain ⟨-, events, same, follows⟩ :=
    run_whole keeps ends quiet going readable a names types functions
  rw [← same, ← map_fst_triedIn, List.length_map]
  exact follows.size_calls

/-- A run in which the user asks to stop in a run of the tool is a front of the run in which the
user does not. -/
theorem run_front (keeps : tool.KeepsBuildFile) (ends : tool.Ends) (quiet : tool.Quiet)
    (keeps' : other.KeepsBuildFile) (ends' : other.Ends) (going : s.interrupted = false)
    (readable : textOf s.tree = .ok start) (a : Audit) (names : NameSupply)
    (types : List TypeInfo) (functions : List Callable) {k : Nat}
    (stopped : tool.StoppedIn (s.calls.size + k) other) {events : List Event}
    (same : events.map Event.entry = a.entries start names types functions)
    (follows : Follows tool events none { session := s, names }
      (a.run tool names types functions s).2)
    (made : s.calls.size + (k + 1) ≤ (a.run tool names types functions s).2.session.calls.size) :
    let full := a.run tool names types functions s
    let cut := a.run other names types functions s
    let front := eventsBefore k events
    cut.1 = .ok () ∧ cut.2.session.calls.size = s.calls.size + (k + 1) ∧
      cut.2.session.calls.toList = full.2.session.calls.toList.take (s.calls.size + (k + 1)) ∧
      cut.2.tally
        = Tally.recordAll {} (front.filterMap (Event.counted? s.settings.warningsAsErrors)) ∧
      cut.2.reports.toList
        = front.map (Event.report s.settings.warningsAsErrors) ++ [.notice "Interrupted"] := by
  intro full cut front
  have quiet_before : other.QuietBefore (s.calls.size + k) := by
    intro number call before
    rw [stopped.agree number before, quiet]
  rw [size_calls_whole keeps ends quiet going readable] at made
  obtain ⟨ok, size, done, trial, ending, rest, w, split, follows', ended⟩ :=
    run_cut keeps' ends' quiet_before stopped.asked going readable a names types functions
      (by omega) (by omega)
  have calls : (a.run other names types functions s).2.session.calls.toList
      = full.2.session.calls.toList.take (s.calls.size + (k + 1)) := by
    refine calls_cut stopped follows.interrupted ?_ size
    rw [ended]
    exact follows'.interrupted
  have calls' : w.session.calls.toList
      = full.2.session.calls.toList.take (s.calls.size + k + 1) := by
    rw [ended] at calls
    exact calls
  -- the last of the calls is the one whose answer is dropped
  have as_many : (triedIn done).length = k := by
    have sum := follows'.size_calls
    rw [ended] at size
    have dropped : (Option.toList (some (trial, ending))).length = 1 := rfl
    rw [dropped] at sum
    change w.session.calls.size = s.calls.size + (triedIn done).length + 1 at sum
    change w.session.calls.size = s.calls.size + k + 1 at size
    omega
  have before : front = done := by
    have cut_front := events_cut stopped follows follows' (same.trans split) calls'
      (by rw [as_many])
    rwa [as_many] at cut_front
  refine ⟨ok, size, calls, ?_, ?_⟩
  · rw [before]
    exact (congrArg Verdicts.tally ended).trans follows'.tally
  · rw [before]
    have reports := congrArg (fun v : Verdicts => v.reports.toList) ended
    refine reports.trans ?_
    show (w.reports.push _).toList = _
    rw [Array.toList_push, follows'.reports]
    rfl

end

/-- **An interrupted run is a front of the run that is not interrupted.** Take a tool that leaves
the build file alone and whose runs all end, and a run of an audit in which the user does not ask to
stop.

* If the user has asked to stop before the start, the run ends well without a call of the tool, with
  nothing counted and nothing reported but the interruption.
* If the user asks to stop during call number `k + 1`, of which the tool may then make anything, the
  run ends well with the first `k + 1` calls of the run without the request, and with the reports
  and the tally that this run had before that call. -/
theorem interrupted_run_is_a_front {tool : Tool} (keeps : tool.KeepsBuildFile) (ends : tool.Ends)
    (quiet : tool.Quiet) (s : Session) (going : s.interrupted = false) (a : Audit)
    (names : NameSupply) (types : List TypeInfo) (functions : List Callable) :
    (∀ other : Tool,
      let cut := a.run other names types functions { s with interrupted := true }
      cut.1 = .ok () ∧ cut.2.session.calls = s.calls ∧ cut.2.tally = {} ∧
        ∀ r ∈ cut.2.reports, r = .notice "Interrupted") ∧
    let full := a.run tool names types functions s
    ∃ events, Follows tool events none { session := s, names } full.2 ∧
      ∀ k (other : Tool), other.KeepsBuildFile → other.Ends →
        tool.StoppedIn (s.calls.size + k) other →
        s.calls.size + (k + 1) ≤ full.2.session.calls.size →
        let cut := a.run other names types functions s
        let front := eventsBefore k events
        cut.1 = .ok () ∧ cut.2.session.calls.size = s.calls.size + (k + 1) ∧
          cut.2.session.calls.toList
            = full.2.session.calls.toList.take (s.calls.size + (k + 1)) ∧
          cut.2.tally
            = Tally.recordAll {} (front.filterMap (Event.counted? s.settings.warningsAsErrors)) ∧
          cut.2.reports.toList
            = front.map (Event.report s.settings.warningsAsErrors)
              ++ [.notice "Interrupted"] := by
  constructor
  · intro other
    obtain ⟨ok, session, tally, reports⟩ :=
      run_stopped other a names types functions (s := { s with interrupted := true }) rfl
    have calls := congrArg Session.calls session
    exact ⟨ok, calls, tally, reports⟩
  intro full
  cases readable : textOf s.tree with
  | ok start =>
    obtain ⟨-, events, same, follows⟩ :=
      run_whole keeps ends quiet going readable a names types functions
    exact ⟨events, follows, fun k other keeps' ends' stopped made =>
      run_front keeps ends quiet keeps' ends' going readable a names types functions stopped same
        follows made⟩
  | error fault =>
    -- no call is made, so there is none to ask in
    obtain ⟨answer, w, notes, session, tally, reports, ran⟩ :=
      run_unreadable readable a names types functions
    have ended : full = (answer, w) := ran tool
    refine ⟨notes.map Event.notice, ?_, fun k other _ _ _ made => ?_⟩
    · rw [ended]
      exact .notices tool going session tally (by rw [reports]; rfl)
    · rw [ended, session] at made
      omega

/-- A tool whose answer to a run is drowned by the request to stop in it. -/
def drownedIn (number : Nat) (tool : Tool) : Tool := fun n call =>
  if n = number then
    { result := .error (.timeout (.ofSeconds 1)), project := call.project, interrupts := true }
  else tool n call

theorem plain_run_stopped_in_second_call :
    Session.quietTool.KeepsBuildFile ∧ Session.quietTool.Ends ∧ Session.quietTool.Quiet ∧
      oneLineProject.interrupted = false ∧ (drownedIn 1 Session.quietTool).KeepsBuildFile ∧
      (drownedIn 1 Session.quietTool).Ends ∧
      Session.quietTool.StoppedIn (oneLineProject.calls.size + 1)
        (drownedIn 1 Session.quietTool) ∧
      let full := plainAudit.run Session.quietTool (.ofSeed 0) [] plainFunctions oneLineProject
      let cut := plainAudit.run (drownedIn 1 Session.quietTool) (.ofSeed 0) [] plainFunctions
        oneLineProject
      oneLineProject.calls.size + (1 + 1) ≤ full.2.session.calls.size ∧
      cut.1 = .ok () ∧ cut.2.session.calls.size = oneLineProject.calls.size + (1 + 1) ∧
      cut.2.session.calls.toList
        = full.2.session.calls.toList.take (oneLineProject.calls.size + (1 + 1)) := by
  have keeps : Session.quietTool.KeepsBuildFile := fun _ _ => rfl
  have ends := Session.ends_quietTool
  have keeps' : (drownedIn 1 Session.quietTool).KeepsBuildFile := by
    intro number call
    by_cases h : number = 1 <;> simp [drownedIn, h, Session.quietTool]
  have ends' : (drownedIn 1 Session.quietTool).Ends := by
    intro number call
    by_cases h : number = 1
    · exact ⟨.timeout (.ofSeconds 1), by simp [drownedIn, h, Tool.Ending.result]⟩
    · exact ⟨.output {}, by simp [drownedIn, h, Tool.Ending.result, Session.quietTool]⟩
  have stopped : Session.quietTool.StoppedIn (oneLineProject.calls.size + 1)
      (drownedIn 1 Session.quietTool) := by
    have first : oneLineProject.calls.size + 1 = 1 := rfl
    rw [first]
    constructor
    · intro number before
      funext call
      simp [drownedIn, Nat.ne_of_lt before]
    · intro call
      simp [drownedIn]
  have trials : (trialsIn (plainAudit.entries "x = 1\n" (.ofSeed 0) [] plainFunctions)).length
      = 1 + 1 := rfl
  have made := size_calls_whole keeps ends (fun _ _ => rfl) rfl textOf_oneLineProject plainAudit (.ofSeed 0)
    [] plainFunctions
  rw [trials] at made
  obtain ⟨-, events, -, cut_at⟩ := interrupted_run_is_a_front keeps ends (fun _ _ => rfl)
    oneLineProject rfl plainAudit (.ofSeed 0) [] plainFunctions
  obtain ⟨ok, size, calls, -, -⟩ := cut_at 1 _ keeps' ends' stopped (Nat.le_of_eq made.symm)
  exact ⟨keeps, ends, fun _ _ => rfl, rfl, keeps', ends', stopped, Nat.le_of_eq made.symm, ok, size,
    calls⟩

end Audit

end SignatureAudit
