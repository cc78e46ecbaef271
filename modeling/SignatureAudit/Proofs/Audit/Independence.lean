import SignatureAudit.Proofs.Audit.Journal
import SignatureAudit.Proofs.Audit.Unreadable
import SignatureAudit.Proofs.Audit.Wording

/-!
# Probes do not influence each other

Two tools that leave the build file alone and whose runs all end may answer as they like: runs of an
audit with them make the same trials (`run_whole`), so the tools see the same. The verdict on a
trial is a function of the trial and of how the tool ended (`Trial.verdict`), so it is the same
wherever the two tools answered the same (`verdictsIn_congr`), whatever they answered before.

How calls are described and how reports are printed has no part in this (`run_worded`).
-/

namespace SignatureAudit

open Session (textOf)

/-! ## Verdicts on trials -/

/-- What is made of a trial. -/
structure Verdict where
  /-- What it counts as, if it counts. -/
  counted? : Option Bool
  report : Report

/-- The verdict on a trial, given how the tool ended. -/
def Trial.verdict (t : Trial) (warningsAsErrors : Bool) (e : Tool.Ending) : Verdict where
  counted? := (t.outcome warningsAsErrors e).counted?
  report := t.probe.reportOf (t.outcome warningsAsErrors e)

/-- The verdicts on the trials that have happened. -/
def verdictsIn (warningsAsErrors : Bool) (events : List Event) : List Verdict :=
  (triedIn events).map fun (t, e) => t.verdict warningsAsErrors e

theorem Tool.Ending.result_inj {e e' : Tool.Ending} (h : e.result = e'.result) : e = e' := by
  cases e with
  | output o =>
    cases e' with
    | output o' => rw [Except.ok.inj h]
    | timeout limit => cases h
  | timeout limit =>
    cases e' with
    | output o => cases h
    | timeout limit' => rw [Tool.Failure.timeout.inj (Except.error.inj h)]

/-- Where the same trials were made and the tool ended the same way in one of them, the verdict on
that one is the same. -/
theorem verdictsIn_congr {events events' : List Event}
    (entries : events.map Event.entry = events'.map Event.entry) {i : Nat}
    (ending : ((triedIn events).map fun (_, e) => e.result)[i]?
      = ((triedIn events').map fun (_, e) => e.result)[i]?) (warningsAsErrors : Bool) :
    (verdictsIn warningsAsErrors events)[i]? = (verdictsIn warningsAsErrors events')[i]? := by
  have trials : ((triedIn events).map (·.1))[i]? = ((triedIn events').map (·.1))[i]? := by
    rw [map_fst_triedIn, map_fst_triedIn, entries]
  rw [List.getElem?_map, List.getElem?_map] at trials ending
  rw [verdictsIn, verdictsIn, List.getElem?_map, List.getElem?_map]
  cases one : (triedIn events)[i]? with
  | none =>
    cases two : (triedIn events')[i]? with
    | none => rfl
    | some _ =>
      rw [one, two] at trials
      cases trials
  | some made =>
    cases two : (triedIn events')[i]? with
    | none =>
      rw [one, two] at trials
      cases trials
    | some made' =>
      rw [one, two] at trials ending
      have trial : made.1 = made'.1 := Option.some.inj trials
      have ended : made.2 = made'.2 := Tool.Ending.result_inj (Option.some.inj ending)
      rw [Prod.ext trial ended]

namespace Audit

/-! ## Two runs -/

/-- A run with what it prints on a console. -/
def runPrinted (a : Audit) (console : Console) (tool : Tool) (names : NameSupply)
    (types : List TypeInfo) (functions : List Callable) (s : Session) :
    Except Project.Fault Unit × Verdicts × String :=
  let ended := a.run tool names types functions s
  (ended.1, ended.2, ended.2.printed console)

/-- A run with a tool that always ends can be told as events. Which trials are made and what is
noticed does not depend on the tool. -/
theorem run_follows (s : Session) (going : s.interrupted = false) (a : Audit) (names : NameSupply)
    (types : List TypeInfo) (functions : List Callable) :
    ∃ answer entries, ∀ tool : Tool, tool.KeepsBuildFile → tool.Ends → tool.Quiet →
      let ended := a.run tool names types functions s
      ended.1 = answer ∧ ∃ events, events.map Event.entry = entries ∧
        Follows tool events none { session := s, names } ended.2 := by
  cases readable : textOf s.tree with
  | ok start =>
    exact ⟨.ok (), a.entries start names types functions, fun tool keeps ends quiet =>
      run_whole keeps ends quiet going readable a names types functions⟩
  | error fault =>
    obtain ⟨answer, w, notes, session, tally, reports, ran⟩ :=
      run_unreadable readable a names types functions
    refine ⟨answer, notes.map Entry.notice, fun tool _ _ _ => ?_⟩
    intro ended
    have ended_eq : ended = (answer, w) := ran tool
    refine ⟨by rw [ended_eq], notes.map Event.notice, by rw [List.map_map]; rfl, ?_⟩
    rw [ended_eq]
    exact .notices tool going session tally (by rw [reports]; rfl)

/-- **Probes do not influence each other.** Take two tools that leave the build file alone, whose
runs all end, and during which the user does not ask to stop. Runs of an audit with them end the
same way, run the tool equally often and show it the same each time. They can be told as events with
the same trials and notices, and the verdict on a trial is the same wherever the two tools answered
the same. How calls are described and how reports are printed changes neither what the tool sees
nor the tally. -/
theorem probes_stay_independent {tool other : Tool} (keeps : tool.KeepsBuildFile)
    (keeps' : other.KeepsBuildFile) (ends : tool.Ends) (ends' : other.Ends) (quiet : tool.Quiet)
    (quiet' : other.Quiet) (s : Session) (going : s.interrupted = false) (a : Audit)
    (names : NameSupply) (types : List TypeInfo) (functions : List Callable) :
    let one := a.run tool names types functions s
    let two := a.run other names types functions s
    one.1 = two.1 ∧
    one.2.session.calls.size = two.2.session.calls.size ∧
    one.2.session.seen = two.2.session.seen ∧
    (∃ events events', events.map Event.entry = events'.map Event.entry ∧
      Follows tool events none { session := s, names } one.2 ∧
      Follows other events' none { session := s, names } two.2 ∧
      ∀ i, (one.2.session.answers tool)[s.calls.size + i]?
          = (two.2.session.answers other)[s.calls.size + i]? →
        (verdictsIn s.settings.warningsAsErrors events)[i]?
          = (verdictsIn s.settings.warningsAsErrors events')[i]?) ∧
    ∀ nameOnly console console',
      let plain := a.runPrinted console tool names types functions s
      let worded := (a.worded nameOnly).runPrinted console' tool names types functions s
      worded.2.1.session.seen = plain.2.1.session.seen ∧ worded.2.1.tally = plain.2.1.tally := by
  intro one two
  obtain ⟨answer, entries, told⟩ := run_follows s going a names types functions
  obtain ⟨ended, events, same, follows⟩ := told tool keeps ends quiet
  obtain ⟨ended', events', same', follows'⟩ := told other keeps' ends' quiet'
  -- both runs go through the same entries, and what the tool sees is worked out from these alone
  have trials : (triedIn events).map (·.1) = (triedIn events').map (·.1) := by
    rw [map_fst_triedIn, map_fst_triedIn, same, same']
  have seen : one.2.session.seen = two.2.session.seen := by
    have texts (events : List Event) : ((triedIn events).map fun (t, _) => .ok (t.shown s.location))
        = ((triedIn events).map (·.1)).map
          fun t => (.ok (t.shown s.location) : Except Project.Fault String) := by
      rw [List.map_map]
      rfl
    rw [follows.seen, follows'.seen]
    simp only [Option.toList_none, List.append_nil]
    rw [texts, texts, trials]
  refine ⟨ended.trans ended'.symm, ?_, seen, ⟨events, events', same.trans same'.symm, follows,
    follows', fun i answered => ?_⟩, fun nameOnly console console' => ?_⟩
  · -- each call has one text
    have lengths := congrArg List.length seen
    simpa only [Session.seen, List.length_map, Array.length_toList] using lengths
  · refine verdictsIn_congr (same.trans same'.symm) ?_ _
    rw [← follows.answer_at, ← follows'.answer_at]
    exact answered
  · intro plain worded
    obtain ⟨-, alike⟩ := run_worded tool a nameOnly names types functions s
    exact ⟨congrArg Session.seen alike.session, alike.tally⟩

/-- A tool whose runs take too long. -/
def slowTool : Tool :=
  fun _ call => { result := .error (.timeout (.ofSeconds 1)), project := call.project }

/-- Output in each run or in none of them: the calls of the tool are the same. -/
theorem quiet_and_slow_see_the_same :
    Session.quietTool.KeepsBuildFile ∧ slowTool.KeepsBuildFile ∧ Session.quietTool.Ends ∧
      slowTool.Ends ∧ Session.quietTool.Quiet ∧ slowTool.Quiet ∧
      oneLineProject.interrupted = false ∧
      let one := plainAudit.run Session.quietTool (.ofSeed 0) [] plainFunctions oneLineProject
      let two := plainAudit.run slowTool (.ofSeed 0) [] plainFunctions oneLineProject
      one.2.session.calls.size = two.2.session.calls.size ∧
        one.2.session.seen = two.2.session.seen := by
  have ended := Session.ends_quietTool
  have given_up : slowTool.Ends := fun _ _ => ⟨.timeout (.ofSeconds 1), rfl⟩
  have keeps : Session.quietTool.KeepsBuildFile := fun _ _ => rfl
  have keeps' : slowTool.KeepsBuildFile := fun _ _ => rfl
  have quiet : Session.quietTool.Quiet := fun _ _ => rfl
  have quiet' : slowTool.Quiet := fun _ _ => rfl
  obtain ⟨-, sizes, seen, -⟩ := probes_stay_independent keeps keeps' ended given_up quiet quiet'
    oneLineProject rfl plainAudit (.ofSeed 0) [] plainFunctions
  exact ⟨keeps, keeps', ended, given_up, quiet, quiet', rfl, sizes, seen⟩

end Audit

end SignatureAudit
