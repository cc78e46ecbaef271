import SignatureAudit.Proofs.Audit.Untouched

/-!
# The journal of a run

What a run does can be told as a list of events: the notices, and the probes with how the tool
ended. `Follows` says that some verdicts come from others by such a list: the tool was run once for
each probe and saw its lines behind the text of that moment, and the reports and the tally are those
of the events. If the user asks to stop while the tool runs, its last answer is dropped.

`Performs` says this of a part of a run, given what it has in store (`Entry`), a tool that always
ends and the number of the run of the tool in which the user asks to stop. Either all runs that are
in store come before that one and the part goes through all of its entries, or it is cut off in that
run. It holds of a step and is handed on by `Performs.bind`, so it holds of all stages
(`performs_stages`) and of a whole run (`run_whole`, `run_cut`).
-/

namespace SignatureAudit

open Session (textOf shown outcomeOf)
open Text (completePart)

/-! ## Tools that end -/

/-- How a run of the tool ends that could be started. -/
inductive Tool.Ending
  | output (output : Tool.Output)
  /-- The run was given up after this time. -/
  | timeout (limit : Duration)
  deriving DecidableEq, Repr

namespace Tool

/-- The answer of a run that ends this way. -/
def Ending.result : Ending → Except Failure Output
  | .output o => .ok o
  | .timeout limit => .error (.timeout limit)

/-- Each run of the tool ends, with output or because it was given up. -/
def Ends (tool : Tool) : Prop := ∀ number call, ∃ e : Ending, (tool number call).result = e.result

/-- The user does not ask to stop while one of the first runs of the tool is going on. -/
def QuietBefore (tool : Tool) (last : Nat) : Prop :=
  ∀ number call, number < last → (tool number call).interrupts = false

/-- The user never asks to stop while the tool is running. -/
def Quiet (tool : Tool) : Prop := ∀ number call, (tool number call).interrupts = false

end Tool

theorem Session.ends_quietTool : quietTool.Ends := fun _ _ => ⟨.output {}, rfl⟩

/-- The answers of the tool so far. -/
def Session.answers (tool : Tool) (s : Session) : List (Except Tool.Failure Tool.Output) :=
  s.calls.toList.mapIdx fun number call => (tool number call).result

theorem Session.length_answers (tool : Tool) (s : Session) :
    (s.answers tool).length = s.calls.size := by
  rw [answers, List.length_mapIdx, Array.length_toList]

theorem Session.answers_push {tool : Tool} {s t : Session} {call : Tool.Call}
    (h : t.calls = s.calls.push call) :
    t.answers tool = s.answers tool ++ [(tool s.calls.size call).result] := by
  rw [answers, h, Array.toList_push, List.mapIdx_concat, Array.length_toList]
  rfl

/-! ## Events -/

/-- A probe and the text of the build file that it is made behind. -/
structure Trial where
  base : String
  probe : Probe

/-- What the tool sees in a trial. -/
def Trial.shown (t : Trial) (location : String) : String :=
  Session.shown location t.base t.probe.lines

/-- The outcome of a trial, given how the tool ended. -/
def Trial.outcome (t : Trial) (warningsAsErrors : Bool) : Tool.Ending → Outcome
  | .output o =>
    .ofDiagnosis (Project.BuildText.lineCount t.base)
      (Diagnosis.diagnose o.stdout o.stderr warningsAsErrors) o.stdout o.stderr
  | .timeout limit =>
    .ofDiagnosis (Project.BuildText.lineCount t.base) (.timeout limit) "" ""

theorem Trial.outcomeOf_result (t : Trial) (warningsAsErrors : Bool) (e : Tool.Ending) :
    outcomeOf warningsAsErrors (Project.BuildText.lineCount t.base) e.result
      = .ok (t.outcome warningsAsErrors e) := by
  cases e <;> rfl

/-- What a run has in store. -/
inductive Entry
  | notice (text : String)
  | trial (trial : Trial)

/-- What has happened in a run. -/
inductive Event
  | notice (text : String)
  | tried (trial : Trial) (ending : Tool.Ending)

/-- The trial of an entry. -/
def Entry.trial? : Entry → Option Trial
  | .notice _ => none
  | .trial t => some t

namespace Event

/-- The entry that an event comes from. -/
def entry : Event → Entry
  | .notice text => .notice text
  | .tried t _ => .trial t

/-- The trial of an event and how the tool ended. -/
def tried? : Event → Option (Trial × Tool.Ending)
  | .notice _ => none
  | .tried t e => some (t, e)

/-- What is reported about an event. -/
def report (warningsAsErrors : Bool) : Event → Report
  | .notice text => .notice text
  | .tried t e => t.probe.reportOf (t.outcome warningsAsErrors e)

/-- What an event counts as. -/
def counted? (warningsAsErrors : Bool) : Event → Option Bool
  | .notice _ => none
  | .tried t e => (t.outcome warningsAsErrors e).counted?

end Event

/-- The trials in store. -/
def trialsIn (entries : List Entry) : List Trial := entries.filterMap Entry.trial?

/-- The trials that have happened, with how the tool ended. -/
def triedIn (events : List Event) : List (Trial × Tool.Ending) := events.filterMap Event.tried?

@[simp] theorem trialsIn_nil : trialsIn [] = [] := rfl

@[simp] theorem trialsIn_notice (text : String) (rest : List Entry) :
    trialsIn (.notice text :: rest) = trialsIn rest := rfl

@[simp] theorem trialsIn_trial (t : Trial) (rest : List Entry) :
    trialsIn (.trial t :: rest) = t :: trialsIn rest := rfl

@[simp] theorem triedIn_nil : triedIn [] = [] := rfl

@[simp] theorem triedIn_notice (text : String) (rest : List Event) :
    triedIn (.notice text :: rest) = triedIn rest := rfl

@[simp] theorem triedIn_tried (t : Trial) (e : Tool.Ending) (rest : List Event) :
    triedIn (.tried t e :: rest) = (t, e) :: triedIn rest := rfl

theorem trialsIn_append (front back : List Entry) :
    trialsIn (front ++ back) = trialsIn front ++ trialsIn back := List.filterMap_append

theorem triedIn_append (front back : List Event) :
    triedIn (front ++ back) = triedIn front ++ triedIn back := List.filterMap_append

theorem triedIn_notices (notes : List String) : triedIn (notes.map Event.notice) = [] := by
  induction notes with
  | nil => rfl
  | cons note rest ih => exact ih

theorem map_fst_triedIn (events : List Event) :
    (triedIn events).map (·.1) = trialsIn (events.map Event.entry) := by
  induction events with
  | nil => rfl
  | cons event rest ih =>
    cases event with
    | notice text => exact ih
    | tried t e => exact congrArg (t :: ·) ih

namespace Audit

/-! ## Following events -/

/-- The second verdicts come from the first by these events. In the end, the tool may have been run
once more when the user asked to stop; its answer is dropped. -/
structure Follows (tool : Tool) (events : List Event) (dropped : Option (Trial × Tool.Ending))
    (v w : Verdicts) : Prop where
  location : w.session.location = v.session.location
  settings : w.session.settings = v.session.settings
  interrupted : w.session.interrupted = dropped.isSome
  seen : w.session.seen = v.session.seen
    ++ (triedIn events ++ dropped.toList).map fun (t, _) => .ok (t.shown v.session.location)
  answers : w.session.answers tool = v.session.answers tool
    ++ (triedIn events ++ dropped.toList).map fun (_, e) => e.result
  reports : w.reports.toList = v.reports.toList
    ++ events.map (Event.report v.session.settings.warningsAsErrors)
  tally : w.tally = v.tally.recordAll
    (events.filterMap (Event.counted? v.session.settings.warningsAsErrors))

namespace Follows

variable {tool : Tool} {front back : List Event} {dropped : Option (Trial × Tool.Ending)}
  {v w x : Verdicts}

/-- Each trial is one run of the tool. -/
theorem size_calls (h : Follows tool front dropped v w) :
    w.session.calls.size
      = v.session.calls.size + (triedIn front).length + dropped.toList.length := by
  have lengths := congrArg List.length h.seen
  simp only [Session.seen, List.length_map, List.length_append, Array.length_toList] at lengths
  omega

theorem append (hfront : Follows tool front none v w) (hback : Follows tool back dropped w x) :
    Follows tool (front ++ back) dropped v x where
  location := hback.location.trans hfront.location
  settings := hback.settings.trans hfront.settings
  interrupted := hback.interrupted
  seen := by
    rw [hback.seen, hfront.seen, hfront.location, triedIn_append]
    simp
  answers := by
    rw [hback.answers, hfront.answers, triedIn_append]
    simp
  reports := by
    rw [hback.reports, hfront.reports, hfront.settings, List.map_append, List.append_assoc]
  tally := by
    rw [hback.tally, hfront.tally, hfront.settings, List.filterMap_append,
      Tally.recordAll_append]

/-- Only what is recorded counts. -/
theorem congr {w' : Verdicts} (h : Follows tool front dropped v w) (session : w'.session = w.session)
    (reports : w'.reports = w.reports) (tally : w'.tally = w.tally) :
    Follows tool front dropped v w' where
  location := by rw [session, h.location]
  settings := by rw [session, h.settings]
  interrupted := by rw [session, h.interrupted]
  seen := by rw [session, h.seen]
  answers := by rw [session, h.answers]
  reports := by rw [reports, h.reports]
  tally := by rw [tally, h.tally]

/-- What changes nothing that is recorded follows no events. -/
theorem of_eq (going : v.session.interrupted = false) (session : w.session = v.session)
    (reports : w.reports = v.reports) (tally : w.tally = v.tally) :
    Follows tool [] none v w where
  location := by rw [session]
  settings := by rw [session]
  interrupted := by rw [session, going]; rfl
  seen := by rw [session]; simp
  answers := by rw [session]; simp
  reports := by rw [reports]; simp
  tally := by rw [tally]; rfl

/-- Notices alone come without a run of the tool. -/
theorem notices (tool : Tool) {notes : List String}
    (going : v.session.interrupted = false) (session : w.session = v.session)
    (tally : w.tally = v.tally)
    (reports : w.reports.toList = v.reports.toList ++ notes.map Report.notice) :
    Follows tool (notes.map Event.notice) none v w where
  location := by rw [session]
  settings := by rw [session]
  interrupted := by rw [session, going]; rfl
  seen := by rw [session, triedIn_notices]; simp
  answers := by rw [session, triedIn_notices]; simp
  reports := by rw [reports, List.map_map]; rfl
  tally := by
    have uncounted : (notes.map Event.notice).filterMap
        (Event.counted? v.session.settings.warningsAsErrors) = [] := by
      rw [List.filterMap_map]
      exact List.filterMap_eq_nil_iff.2 fun _ _ => rfl
    rw [tally, uncounted, Tally.recordAll_nil]

/-- What a run that goes through all that is in store has answered is how its trials ended. -/
theorem answer_at (h : Follows tool front none v w) (i : Nat) :
    (w.session.answers tool)[v.session.calls.size + i]?
      = ((triedIn front).map fun (_, e) => e.result)[i]? := by
  have before := v.session.length_answers tool
  rw [h.answers, List.getElem?_append_right (by omega), before, Nat.add_sub_cancel_left,
    Option.toList_none, List.append_nil]

end Follows

/-! ## Parts of a run -/

/-- What a part of a run does that has these entries in store and leaves the text `after`, if the
user asks to stop in run number `last` of the tool. -/
structure Performs {α : Type} (tool : Tool) (last : Nat) (entries : List Entry) (after : String)
    (v : Verdicts) (r : Except Stop α × Verdicts) : Prop where
  whole : v.session.calls.size + (trialsIn entries).length ≤ last →
    ∃ a events, r.1 = .ok a ∧ events.map Event.entry = entries ∧
      Follows tool events none v r.2 ∧ textOf r.2.session.tree = .ok after
  cut : v.session.calls.size ≤ last →
    last < v.session.calls.size + (trialsIn entries).length →
    (∀ call, (tool last call).interrupts = true) →
    r.1 = .error .interrupted ∧ r.2.session.calls.size = last + 1 ∧
      ∃ events trial ending rest, entries = events.map Event.entry ++ .trial trial :: rest ∧
        Follows tool events (some (trial, ending)) v r.2

namespace Performs

variable {α β : Type} {tool : Tool} {last : Nat} {front back : List Entry} {mid after : String}
  {v : Verdicts}

/-- Nothing in store: the part goes through. -/
theorem of_eq {r : Except Stop α × Verdicts} {a : α} (going : v.session.interrupted = false)
    (readable : textOf v.session.tree = .ok after) (ok : r.1 = .ok a)
    (session : r.2.session = v.session) (reports : r.2.reports = v.reports)
    (tally : r.2.tally = v.tally) : Performs tool last [] after v r where
  whole _ := ⟨a, [], ok, rfl, .of_eq going session reports tally, by rw [session, readable]⟩
  cut started missing := absurd missing (by simpa using started)

/-- Only what is recorded counts. -/
theorem congr {r r' : Except Stop α × Verdicts} (h : Performs tool last front after v r)
    (answer : r'.1 = r.1) (session : r'.2.session = r.2.session)
    (reports : r'.2.reports = r.2.reports) (tally : r'.2.tally = r.2.tally) :
    Performs tool last front after v r' where
  whole room := by
    obtain ⟨a, events, ok, same, follows, readable⟩ := h.whole room
    refine ⟨a, events, answer.trans ok, same, follows.congr session reports tally, ?_⟩
    rw [session, readable]
  cut started short asked := by
    obtain ⟨stopped, size, events, trial, ending, rest, split, follows⟩ :=
      h.cut started short asked
    refine ⟨answer.trans stopped, ?_, events, trial, ending, rest, split,
      follows.congr session reports tally⟩
    rw [session, size]

/-- What two parts of a run do one after the other. -/
theorem bind {x : Run α} {f : α → Run β} (hx : Performs tool last front mid v (runOn x v))
    (hf : ∀ a w, runOn x v = (.ok a, w) → w.session.interrupted = false →
      textOf w.session.tree = .ok mid → Performs tool last back after w (runOn (f a) w)) :
    Performs tool last (front ++ back) after v (runOn (x >>= f) v) := by
  have lengths : (trialsIn (front ++ back)).length
      = (trialsIn front).length + (trialsIn back).length := by
    rw [trialsIn_append, List.length_append]
  -- where the first part goes through, the second starts behind its runs of the tool
  have first_whole (room : v.session.calls.size + (trialsIn front).length ≤ last) :
      ∃ a w events, runOn x v = (.ok a, w) ∧ events.map Event.entry = front ∧
        Follows tool events none v w ∧
        w.session.calls.size = v.session.calls.size + (trialsIn front).length ∧
        Performs tool last back after w (runOn (f a) w) := by
    obtain ⟨a, events, ok, same, follows, readable⟩ := hx.whole room
    have ran : runOn x v = (.ok a, (runOn x v).2) := Prod.ext ok rfl
    have size := follows.size_calls
    rw [← List.length_map (·.1), map_fst_triedIn, same] at size
    refine ⟨a, _, events, ran, same, follows, by simpa using size, ?_⟩
    exact hf a _ ran follows.interrupted readable
  constructor
  · intro room
    obtain ⟨a, w, events, ran, same, follows, size, second⟩ := first_whole (by omega)
    obtain ⟨b, more, ok, same', follows', readable⟩ := second.whole (by omega)
    rw [runOn_bind_ok ran]
    refine ⟨b, events ++ more, ok, ?_, follows.append follows', readable⟩
    rw [List.map_append, same, same']
  · intro started short asked
    by_cases room : v.session.calls.size + (trialsIn front).length ≤ last
    · obtain ⟨a, w, events, ran, same, follows, size, second⟩ := first_whole room
      obtain ⟨stopped, size', more, trial, ending, rest, split, follows'⟩ :=
        second.cut (by omega) (by omega) asked
      rw [runOn_bind_ok ran]
      refine ⟨stopped, size', events ++ more, trial, ending, rest, ?_, follows.append follows'⟩
      rw [List.map_append, same, split, List.append_assoc]
    · obtain ⟨stopped, size, events, trial, ending, rest, split, follows⟩ :=
        hx.cut started (by omega) asked
      have ran : runOn x v = (.error .interrupted, (runOn x v).2) := Prod.ext stopped rfl
      rw [runOn_bind_error ran]
      refine ⟨rfl, size, events, trial, ending, rest ++ back, ?_, follows⟩
      rw [split, List.append_assoc, List.cons_append]

end Performs

section

variable {tool : Tool} {last : Nat} {v : Verdicts} {text : String}

/-! ## Steps -/

/-- What some steps have in store, on a build file with this text. The first probe drops an open
line from it. -/
def entriesOf (text : String) : List Step → List Entry
  | [] => []
  | .checkpoint :: rest => entriesOf text rest
  | .notice note :: rest => .notice note :: entriesOf text rest
  | .probe p :: rest => .trial ⟨text, p⟩ :: entriesOf (completePart text) rest

/-- The text of the build file behind some steps. -/
def textBehind (text : String) : List Step → String
  | [] => text
  | .checkpoint :: rest | .notice _ :: rest => textBehind text rest
  | .probe _ :: rest => textBehind (completePart text) rest

theorem performs_probe (keeps : tool.KeepsBuildFile) (ends : tool.Ends)
    (quiet : tool.QuietBefore last) (going : v.session.interrupted = false)
    (readable : textOf v.session.tree = .ok text) (p : Probe) :
    Performs tool last [.trial ⟨text, p⟩] (completePart text) v
      (runOn (runStep tool (.probe p)) v) := by
  obtain ⟨tree, left, htree, hleft, ran⟩ := Session.run_probe keeps readable p.lines
  rw [Session.append_sentinel] at htree
  let call := v.session.probeCall tree
  let session := (v.session.answered call (tool v.session.calls.size call)).onTree left
  obtain ⟨e, answer⟩ := ends v.session.calls.size call
  have ran : runOn (Session.probe tool p.lines) v.session
      = (.ok (Trial.outcome ⟨text, p⟩ v.session.settings.warningsAsErrors e), session) := by
    rw [← Trial.outcomeOf_result, ← answer]
    exact ran
  have asked : session.interrupted = (tool v.session.calls.size call).interrupts := by
    show (v.session.interrupted || _) = _
    rw [going, Bool.false_or]
  have seen : session.seen = v.session.seen ++ [.ok (shown v.session.location text p.lines)] := by
    show (v.session.calls.push call).toList.map _ = _
    rw [Array.toList_push, List.map_append]
    exact congrArg (fun text => v.session.seen ++ [text]) htree
  have answers : session.answers tool = v.session.answers tool ++ [e.result] := by
    rw [Session.answers_push (rfl : session.calls = v.session.calls.push call), answer]
  constructor
  -- the run of the tool is one before the request to stop, or it is the one with the request
  · intro room
    have before : v.session.calls.size < last := by
      rw [trialsIn_trial, trialsIn_nil, List.length_singleton] at room
      omega
    have silent : session.interrupted = false := by rw [asked, quiet _ _ before]
    rw [run_probe_judged ran silent, run_judge_eq]
    refine ⟨(), [.tried ⟨text, p⟩ e], rfl, rfl, ?_, hleft⟩
    exact ⟨rfl, rfl, silent, seen, answers, by simp [judged, Event.report],
      by cases h : (Trial.outcome ⟨text, p⟩ v.session.settings.warningsAsErrors e).counted? <;>
        simp [judged, Event.counted?, h]⟩
  · intro started short stop
    have here : v.session.calls.size = last := by
      rw [trialsIn_trial, trialsIn_nil, List.length_singleton] at short
      omega
    have stopped : session.interrupted = true := by rw [asked, here, stop]
    have size : session.calls.size = last + 1 := by
      show (v.session.calls.push call).size = last + 1
      rw [Array.size_push, here]
    rw [run_probe_interrupted ran stopped]
    exact ⟨rfl, size, [], ⟨text, p⟩, e, [], rfl, rfl, rfl, stopped, seen, answers, by simp, rfl⟩

theorem performs_step (keeps : tool.KeepsBuildFile) (ends : tool.Ends)
    (quiet : tool.QuietBefore last) (going : v.session.interrupted = false)
    (readable : textOf v.session.tree = .ok text) (step : Step) :
    Performs tool last (entriesOf text [step]) (textBehind text [step]) v
      (runOn (runStep tool step) v) := by
  cases step with
  | checkpoint =>
    have passed := run_checkpoint v
    rw [if_neg (by simp [going])] at passed
    rw [runStep, passed]
    exact .of_eq going readable rfl rfl rfl rfl
  | notice note =>
    constructor
    · intro _
      refine ⟨(), [.notice note], rfl, rfl, ?_, readable⟩
      exact ⟨rfl, rfl, going, by simp [runStep, run_report], by simp [runStep, run_report],
        by simp [runStep, run_report, Event.report], rfl⟩
    · intro started short
      exact absurd short (by simpa [entriesOf] using started)
  | probe p => exact performs_probe keeps ends quiet going readable p

theorem performs_steps (keeps : tool.KeepsBuildFile) (ends : tool.Ends)
    (quiet : tool.QuietBefore last) (steps : List Step) (going : v.session.interrupted = false)
    (readable : textOf v.session.tree = .ok text) :
    Performs tool last (entriesOf text steps) (textBehind text steps) v
      (runOn (runSteps tool steps) v) := by
  induction steps generalizing v text with
  | nil => exact .of_eq going readable rfl rfl rfl rfl
  | cons step rest ih =>
    have split : entriesOf text (step :: rest)
        = entriesOf text [step] ++ entriesOf (textBehind text [step]) rest := by
      cases step <;> rfl
    have behind : textBehind text (step :: rest) = textBehind (textBehind text [step]) rest := by
      cases step <;> rfl
    rw [runSteps_cons, split, behind]
    exact (performs_step keeps ends quiet going readable step).bind
      fun _ w _ going readable => ih going readable

/-! ## Stages -/

theorem performs_planning (keeps : tool.KeepsBuildFile) (ends : tool.Ends)
    (quiet : tool.QuietBefore last) (planning : Planning Unit)
    (going : v.session.interrupted = false) (readable : textOf v.session.tree = .ok text) :
    Performs tool last (entriesOf text (planning.run v.names).steps)
      (textBehind text (planning.run v.names).steps) v (runOn (runPlanning tool planning) v) := by
  have steps := performs_steps keeps ends quiet (planning.run v.names).steps going readable
  rw [run_planning_eq]
  generalize runOn (runSteps tool (planning.run v.names).steps) v = r at steps
  rcases r with ⟨stop | _, w⟩
  · exact steps
  · exact steps.congr rfl rfl rfl rfl

/-- What a stage has in store, on a build file with this text. -/
def stageEntries (text : String) (names : NameSupply) (stage : Stage) : List Entry :=
  entriesOf (stage.base text) (stage.planning.run names).steps

/-- The text of the build file behind a stage. -/
def stageBehind (text : String) (names : NameSupply) (stage : Stage) : String :=
  if stage.emptied then text else textBehind text (stage.planning.run names).steps

theorem performs_stage (keeps : tool.KeepsBuildFile) (ends : tool.Ends)
    (quiet : tool.QuietBefore last) (stage : Stage) (going : v.session.interrupted = false)
    (readable : textOf v.session.tree = .ok text) :
    Performs tool last (stageEntries text v.names stage) (stageBehind text v.names stage) v
      (runOn (runStage tool stage) v) := by
  rw [stageEntries, stageBehind, Stage.base]
  by_cases h : stage.emptied = true
  · obtain ⟨blank, tree, hblank, htree, ran⟩ := run_stage_emptied keeps readable h
    have inner := performs_planning (v := emptied v text blank) keeps ends quiet stage.planning
      going hblank
    -- nothing that is recorded changes when the text is put aside and written back
    have outer {events : List Event} {dropped : Option (Trial × Tool.Ending)} {w : Verdicts}
        (f : Follows tool events dropped (emptied v text blank) w) :
        Follows tool events dropped v (filled w tree) :=
      ⟨f.location, f.settings, f.interrupted, f.seen, f.answers, f.reports, f.tally⟩
    rw [ran, if_pos h, if_pos h]
    constructor
    · intro room
      obtain ⟨a, events, ok, same, follows, -⟩ := inner.whole room
      exact ⟨a, events, ok, same, outer follows, htree⟩
    · intro started short asked
      obtain ⟨stopped, size, events, trial, ending, rest, split, follows⟩ :=
        inner.cut started short asked
      exact ⟨stopped, size, events, trial, ending, rest, split, outer follows⟩
  · rw [runStage, if_neg h, if_neg h, if_neg h]
    exact performs_planning keeps ends quiet stage.planning going readable

/-- What some stages have in store, on a build file with this text. -/
def stagesEntries (text : String) : NameSupply → List Stage → List Entry
  | _, [] => []
  | names, stage :: rest =>
    stageEntries text names stage
      ++ stagesEntries (stageBehind text names stage) (stage.namesAfter names) rest

/-- The text of the build file behind some stages. -/
def stagesBehind (text : String) : NameSupply → List Stage → String
  | _, [] => text
  | names, stage :: rest =>
    stagesBehind (stageBehind text names stage) (stage.namesAfter names) rest

theorem performs_stages (keeps : tool.KeepsBuildFile) (ends : tool.Ends)
    (quiet : tool.QuietBefore last) (stages : List Stage) (going : v.session.interrupted = false)
    (readable : textOf v.session.tree = .ok text) :
    Performs tool last (stagesEntries text v.names stages) (stagesBehind text v.names stages) v
      (runOn (runStages tool stages) v) := by
  induction stages generalizing v text with
  | nil => exact .of_eq going readable rfl rfl rfl rfl
  | cons stage rest ih =>
    have names := names_stage keeps readable stage
    refine (performs_stage keeps ends quiet stage going readable).bind
      fun _ w ran going readable => ?_
    -- the rest is planned with the names that the stage left
    have left : w.names = stage.namesAfter v.names := by
      rw [ran] at names
      exact names rfl
    rw [stagesBehind, ← left]
    exact ih going readable

end

/-! ## Whole runs -/

section

variable {tool : Tool} {last : Nat} {s : Session} {start : String}

/-- What an audit of some types and functions has in store, on a build file with this text. -/
def entries (a : Audit) (start : String) (names : NameSupply) (types : List TypeInfo)
    (functions : List Callable) : List Entry :=
  stagesEntries start names (a.stages types functions)

/-- A run in which the user does not ask to stop goes through all that is in store. -/
theorem run_whole (keeps : tool.KeepsBuildFile) (ends : tool.Ends) (quiet : tool.Quiet)
    (going : s.interrupted = false) (readable : textOf s.tree = .ok start) (a : Audit)
    (names : NameSupply) (types : List TypeInfo) (functions : List Callable) :
    let ended := a.run tool names types functions s
    ended.1 = .ok () ∧ ∃ events, events.map Event.entry = a.entries start names types functions ∧
      Follows tool events none { session := s, names } ended.2 := by
  have quiet_before : tool.QuietBefore
      (s.calls.size + (trialsIn (a.entries start names types functions)).length) :=
    fun number call _ => quiet number call
  have performs := performs_stages (v := { session := s, names }) keeps ends quiet_before
    (a.stages types functions) going readable
  obtain ⟨⟨⟩, events, ok, same, follows, -⟩ := performs.whole (Nat.le_refl _)
  rw [run_eq]
  cases ran : runOn (runStages tool (a.stages types functions)) { session := s, names } with
  | mk answer w =>
    rw [ran] at ok follows
    obtain rfl : answer = .ok () := ok
    exact ⟨rfl, events, same, follows⟩

/-- A run in which the user asks to stop in a run of the tool ends well with what it has recorded by
then, and with a notice. -/
theorem run_cut (keeps : tool.KeepsBuildFile) (ends : tool.Ends) (quiet : tool.QuietBefore last)
    (asked : ∀ call, (tool last call).interrupts = true) (going : s.interrupted = false)
    (readable : textOf s.tree = .ok start) (a : Audit) (names : NameSupply)
    (types : List TypeInfo) (functions : List Callable) (started : s.calls.size ≤ last)
    (short : last < s.calls.size
      + (trialsIn (a.entries start names types functions)).length) :
    let ended := a.run tool names types functions s
    ended.1 = .ok () ∧ ended.2.session.calls.size = last + 1 ∧ ∃ events trial ending rest w,
      a.entries start names types functions = events.map Event.entry ++ .trial trial :: rest ∧
      Follows tool events (some (trial, ending)) { session := s, names } w ∧
      ended.2 = { w with reports := w.reports.push (.notice "Interrupted") } := by
  have performs := performs_stages (v := { session := s, names }) keeps ends quiet
    (a.stages types functions) going readable
  obtain ⟨stopped, size, events, trial, ending, rest, split, follows⟩ :=
    performs.cut started short asked
  rw [run_eq]
  cases ran : runOn (runStages tool (a.stages types functions)) { session := s, names } with
  | mk answer w =>
    rw [ran] at stopped size follows
    obtain rfl : answer = .error .interrupted := stopped
    exact ⟨rfl, size, events, trial, ending, rest, w, split, follows, rfl⟩

end

end Audit

end SignatureAudit
