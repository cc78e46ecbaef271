import SignatureAudit.Proofs.Audit.Run
import SignatureAudit.Proofs.Project.Rollback

/-!
# A run leaves the build file as it was

`Shows` is what holds of every part of a run, wherever it ends: the build file has the text that it
had, and the runs of the tool saw a front of the texts that the part was to show. It holds of one
step (`shows_step`), it is handed on from one part to the next (`Shows.bind`), and so it holds of
the steps of a plan, of a stage and of all stages.

A stage that works on an emptied build file shows its probes behind the empty text. The saved text
outlives its steps (`saved_steps`), so it can be written back however they end.
-/

namespace SignatureAudit.Audit

open Session (bytesOf? textOf textOf_eq_ok_iff shown)
open Text (Complete completePart)

/-- A part of a run leaves the text `start` in the build file, and it shows the tool these texts in
their order. If it ends early, the last of them may be missing. -/
structure Shows {α : Type} (start : String) (texts : List String) (v : Verdicts)
    (r : Except Stop α × Verdicts) : Prop where
  text : textOf r.2.session.tree = .ok start
  location : r.2.session.location = v.session.location
  seen : ∃ done, done <+: texts ∧ r.2.session.seen = v.session.seen ++ done.map .ok ∧
    ∀ a, r.1 = .ok a → done = texts
  interrupted : r.1 = .error .interrupted → r.2.session.interrupted = true

namespace Shows

variable {α β : Type} {start : String} {front back : List String} {v w : Verdicts} {a : α}

theorem append {r : Except Stop β × Verdicts} (hfront : Shows start front v (Except.ok a, w))
    (hback : Shows start back w r) : Shows start (front ++ back) v r where
  text := hback.text
  location := hback.location.trans hfront.location
  seen := by
    obtain ⟨first, -, hfirst, all⟩ := hfront.seen
    obtain ⟨second, hprefix, hsecond, rest⟩ := hback.seen
    obtain rfl := all a rfl
    refine ⟨first ++ second, (List.prefix_append_right_inj first).2 hprefix, ?_, ?_⟩
    · rw [hsecond, hfirst, List.map_append, List.append_assoc]
    · intro b hb
      rw [rest b hb]
  interrupted := hback.interrupted

theorem stopped {stop : Stop}
    (h : Shows start front v ((.error stop, w) : Except Stop α × Verdicts)) (back : List String) :
    Shows start (front ++ back) v ((.error stop, w) : Except Stop β × Verdicts) where
  text := h.text
  location := h.location
  seen := by
    obtain ⟨done, hprefix, hdone, -⟩ := h.seen
    refine ⟨done, hprefix.trans (List.prefix_append front back), hdone, ?_⟩
    intro b hb
    cases hb
  interrupted := fun ended => h.interrupted (congrArg Except.error (Except.error.inj ended))

/-- What two parts of a run do one after the other. -/
theorem bind {x : Run α} {f : α → Run β} (hx : Shows start front v (runOn x v))
    (hf : ∀ a w, runOn x v = (.ok a, w) → Shows start back w (runOn (f a) w)) :
    Shows start (front ++ back) v (runOn (x >>= f) v) := by
  cases h : runOn x v with
  | mk answer w =>
    rw [h] at hx
    cases answer with
    | ok a =>
      rw [runOn_bind_ok h]
      exact hx.append (hf a w h)
    | error stop =>
      rw [runOn_bind_error h]
      exact hx.stopped back

/-- Only the answer and the session count. -/
theorem congr {r r' : Except Stop α × Verdicts} (h : Shows start front v r) (answer : r'.1 = r.1)
    (session : r'.2.session = r.2.session) : Shows start front v r' where
  text := by rw [session, h.text]
  location := by rw [session, h.location]
  seen := by
    rw [session, answer]
    exact h.seen
  interrupted := by
    rw [session, answer]
    exact h.interrupted

/-- A part of a run that does not touch the session shows nothing. -/
theorem of_session_eq {r : Except Stop α × Verdicts} (readable : textOf v.session.tree = .ok start)
    (same : r.2.session = v.session)
    (interrupted : r.1 = .error .interrupted → r.2.session.interrupted = true) :
    Shows start [] v r where
  text := by rw [same, readable]
  location := by rw [same]
  seen := ⟨[], List.prefix_rfl, by rw [same, List.map_nil, List.append_nil], fun _ _ => rfl⟩
  interrupted := interrupted

end Shows

section

variable {tool : Tool} {v : Verdicts} {start : String}

/-! ## Steps -/

/-- The texts that probes show the tool behind a text. -/
def textsOf (location start : String) (probes : List Probe) : List String :=
  probes.map fun p => shown location start p.lines

/-- A probe shows the tool one text, and it leaves a complete text as it was. -/
theorem seen_probe (keeps : tool.KeepsBuildFile) {s : Session} (complete : Complete start)
    (readable : textOf s.tree = .ok start) (lines : List String) :
    let t := (runOn (Session.probe tool lines) s).2
    textOf t.tree = .ok start ∧ t.location = s.location ∧
      t.seen = s.seen ++ [.ok (shown s.location start lines)] := by
  obtain ⟨tree, left, htree, hleft, ran⟩ := Session.run_probe keeps readable lines
  rw [Text.completePart_eq_self_iff.2 complete] at hleft
  rw [Session.append_sentinel] at htree
  simp only [ran]
  refine ⟨hleft, rfl, ?_⟩
  rw [Session.seen, Session.calls_onTree, Session.answered, Array.toList_push, List.map_append]
  exact congrArg (fun text => s.seen ++ [text]) htree

theorem shows_step (keeps : tool.KeepsBuildFile) (complete : Complete start)
    (readable : textOf v.session.tree = .ok start) (step : Step) :
    Shows start (textsOf v.session.location start step.probe?.toList) v
      (runOn (runStep tool step) v) := by
  cases step with
  | checkpoint =>
    have same : (runOn (runStep tool .checkpoint) v).2.session = v.session := by
      rw [runStep, run_checkpoint]
    exact .of_session_eq readable same interrupted_of_step
  | notice text => exact .of_session_eq readable rfl interrupted_of_step
  | probe p =>
    obtain ⟨htext, hlocation, hseen⟩ := seen_probe keeps complete readable p.lines
    rw [← session_probe] at htext hlocation hseen
    exact ⟨htext, hlocation, ⟨_, List.prefix_rfl, hseen, fun _ _ => rfl⟩, interrupted_of_step⟩

theorem shows_steps (keeps : tool.KeepsBuildFile) (complete : Complete start) (steps : List Step)
    (readable : textOf v.session.tree = .ok start) :
    Shows start (textsOf v.session.location start (steps.filterMap Step.probe?)) v
      (runOn (runSteps tool steps) v) := by
  induction steps generalizing v with
  | nil => exact .of_session_eq readable rfl fun stopped => by cases stopped
  | cons step rest ih =>
    have split : textsOf v.session.location start ((step :: rest).filterMap Step.probe?)
        = textsOf v.session.location start step.probe?.toList
          ++ textsOf v.session.location start (rest.filterMap Step.probe?) := by
      rw [List.filterMap_cons, textsOf, textsOf, textsOf, ← List.map_append]
      cases step.probe? <;> rfl
    have first := shows_step keeps complete readable step
    rw [runSteps_cons, split]
    -- the rest starts from the same text, in the session that the first step left
    refine first.bind fun _ w ran => ?_
    rw [ran] at first
    rw [← first.location]
    exact ih first.text

/-- Steps save nothing and take nothing saved. -/
theorem saved_step (keeps : tool.KeepsBuildFile) (step : Step) (v : Verdicts) :
    (runOn (runStep tool step) v).2.session.saved = v.session.saved := by
  cases step with
  | checkpoint => rw [runStep, run_checkpoint]
  | notice text => rfl
  | probe p => rw [session_probe, Session.saved_probe keeps]

theorem saved_steps (keeps : tool.KeepsBuildFile) (steps : List Step) (v : Verdicts) :
    (runOn (runSteps tool steps) v).2.session.saved = v.session.saved := by
  induction steps generalizing v with
  | nil => rfl
  | cons step rest ih =>
    rw [runSteps_cons]
    refine runOn_bind_keeps (p := fun w : Verdicts => w.session.saved = v.session.saved)
      (saved_step keeps step v) fun _ w hw => ?_
    exact (ih w).trans hw

/-! ## Stages -/

theorem shows_planning (keeps : tool.KeepsBuildFile) (complete : Complete start)
    (readable : textOf v.session.tree = .ok start) (planning : Planning Unit) :
    Shows start (textsOf v.session.location start (planning.run v.names).probes) v
      (runOn (runPlanning tool planning) v) := by
  obtain ⟨answer, session, -⟩ := run_planning tool planning v
  exact (shows_steps keeps complete (planning.run v.names).steps readable).congr answer session

theorem saved_planning (keeps : tool.KeepsBuildFile) (planning : Planning Unit) (v : Verdicts) :
    (runOn (runPlanning tool planning) v).2.session.saved = v.session.saved := by
  rw [(run_planning tool planning v).2.1, saved_steps keeps]

/-- The verdicts with the text of the build file saved and the build file emptied. -/
def emptied (v : Verdicts) (start : String) (blank : FileNode) : Verdicts :=
  { v with session := { v.session with saved := some start }.onTree blank }

/-- The verdicts with the build file written back. -/
def filled (v : Verdicts) (tree : FileNode) : Verdicts :=
  { v with session := { v.session.onTree tree with saved := none } }

/-- A stage in an emptied build file ends as its steps do in an emptied build file, and the text is
written back in any case. -/
theorem run_stage_emptied (keeps : tool.KeepsBuildFile)
    (readable : textOf v.session.tree = .ok start) {stage : Stage} (h : stage.emptied = true) :
    ∃ blank tree, textOf blank = .ok "" ∧ textOf tree = .ok start ∧
      let r := runOn (runPlanning tool stage.planning) (emptied v start blank)
      runOn (runStage tool stage) v = (r.1, filled r.2 tree) := by
  have saved := run_onSession_ok (v := v) (Session.run_snapshot readable)
  obtain ⟨blank, hblank, written⟩ := Session.run_write
    (s := { v.session with saved := some start }) (Session.get?_ne_directory readable) ""
  have cleared : runOn (onSession Session.clear)
      { v with session := { v.session with saved := some start } }
      = (.ok (), emptied v start blank) := run_onSession_ok written
  have inner := shows_planning (v := emptied v start blank) keeps (.inl rfl) hblank stage.planning
  -- the steps keep what was saved, also when they end early
  obtain ⟨tree, htree, restored⟩ := Session.run_restore (Session.get?_ne_directory inner.text)
    (saved_planning keeps stage.planning (emptied v start blank))
  refine ⟨blank, tree, hblank, htree, ?_⟩
  intro r
  have back : runOn (onSession Session.restore) r.2 = (.ok (), filled r.2 tree) :=
    run_onSession_ok restored
  rw [runStage, if_pos h, runOn_bind_ok saved, runOn_bind_ok cleared,
    runOn_bind_ok (runOn_lift_run ..), runOn_bind_ok back]
  cases r.1 <;> rfl

theorem shows_stage (keeps : tool.KeepsBuildFile) (complete : Complete start)
    (readable : textOf v.session.tree = .ok start) (stage : Stage) :
    Shows start (textsOf v.session.location (stage.base start) (stage.probes v.names)) v
      (runOn (runStage tool stage) v) := by
  by_cases h : stage.emptied = true
  · obtain ⟨blank, tree, hblank, htree, ran⟩ := run_stage_emptied keeps readable h
    have inner := shows_planning (v := emptied v start blank) keeps (.inl rfl) hblank stage.planning
    rw [ran, Stage.base, if_pos h]
    exact ⟨htree, inner.location, inner.seen, inner.interrupted⟩
  · rw [runStage, if_neg h, Stage.base, if_neg h]
    exact shows_planning keeps complete readable stage.planning

theorem names_stage (keeps : tool.KeepsBuildFile) (readable : textOf v.session.tree = .ok start)
    (stage : Stage) (ended : (runOn (runStage tool stage) v).1 = .ok ()) :
    (runOn (runStage tool stage) v).2.names = stage.namesAfter v.names := by
  by_cases h : stage.emptied = true
  · obtain ⟨blank, tree, -, -, ran⟩ := run_stage_emptied keeps readable h
    rw [ran] at ended ⊢
    exact (run_planning tool stage.planning (emptied v start blank)).2.2 ended
  · rw [runStage, if_neg h] at ended ⊢
    exact (run_planning tool stage.planning v).2.2 ended

theorem shows_stages (keeps : tool.KeepsBuildFile) (complete : Complete start)
    (stages : List Stage) (readable : textOf v.session.tree = .ok start) :
    Shows start ((based start v.names stages).map fun (base, p) =>
        shown v.session.location base p.lines) v
      (runOn (runStages tool stages) v) := by
  induction stages generalizing v with
  | nil => exact .of_session_eq readable rfl fun stopped => by cases stopped
  | cons stage rest ih =>
    have first := shows_stage keeps complete readable stage
    rw [based, List.map_append, List.map_map, runStages]
    -- the rest is planned with the names that the stage left, and it runs only if the stage ended
    have names := names_stage keeps readable stage
    refine first.bind fun _ w ran => ?_
    rw [ran] at first names
    rw [← names rfl, ← first.location]
    exact ih first.text

/-! ## Whole runs -/

/-- The padding line ends every line of the build file. -/
theorem complete_of_padded {s t : Session}
    (padded : runOn (Session.appendLines [""]) s = (.ok (), t)) :
    ∃ start, textOf t.tree = .ok start ∧ Complete start := by
  cases h : textOf s.tree with
  | error fault =>
    rw [Session.appendLines, runOn_bind_ok (runOn_get s), Session.run_edit_unreadable h] at padded
    cases padded
  | ok text =>
    obtain ⟨tree, htree, ran⟩ := Session.run_appendLines h [""]
    rw [padded] at ran
    rw [show t = s.onTree tree from congrArg Prod.snd ran]
    refine ⟨_, htree, .inr ?_⟩
    rw [Project.BuildText.append]
    simp [Project.BuildText.escape]

/-- What the tool sees in a probe of a check: the text that the check starts from, the lines of the
probe and the sentinel. -/
def view (location start : String) : Check × Probe → String
  | (check, p) => shown location (check.base start) p.lines

/-- The runs of the tool in a run of an audit see a front of the schedule, and the whole schedule if
nothing ends the run. -/
theorem shows_run (keeps : tool.KeepsBuildFile) (complete : Complete start) {s : Session}
    (readable : textOf s.tree = .ok start) (a : Audit) (names : NameSupply) (types : List TypeInfo)
    (functions : List Callable) :
    Shows start ((a.schedule names (checks types functions)).map (view s.location start))
      { session := s, names }
      (runOn (runStages tool (a.stages types functions)) { session := s, names }) := by
  have shows := shows_stages (v := { session := s, names }) keeps complete
    (a.stages types functions) readable
  rw [stages_eq, based_checks, List.map_map] at shows
  rw [stages_eq]
  exact shows

/-- **A run leaves the build file as it was.** Start from a build file without an open line, which
the padding line makes sure of. Whatever the tool answers and whenever it is interrupted, the run
ends with the same build file, and each run of the tool saw the text that its check starts from with
the lines of a planned probe and the sentinel behind it, in the order of the plan. -/
theorem run_leaves_build_file (keeps : tool.KeepsBuildFile) (s : Session) (a : Audit)
    (names : NameSupply) (types : List TypeInfo) (functions : List Callable) :
    (∀ before, runOn (Session.appendLines [""]) before = (.ok (), s) →
      ∃ start, textOf s.tree = .ok start ∧ Complete start) ∧
    ∀ start, textOf s.tree = .ok start → Complete start →
      let ended := a.run tool names types functions s
      let after := ended.2.session
      bytesOf? after.tree = bytesOf? s.tree ∧
      ∃ done, done <+: a.schedule names (checks types functions) ∧
        after.seen = s.seen ++ done.map (fun entry => .ok (view s.location start entry)) ∧
        (ended.1 = .ok () → after.interrupted = false →
          done = a.schedule names (checks types functions)) := by
  refine ⟨fun before => complete_of_padded, fun start readable complete => ?_⟩
  intro ended after
  have shows := shows_run keeps complete readable a names types functions
  obtain ⟨same, well⟩ := run_stages tool a names types functions s
  change after = _ at same
  obtain ⟨done, hprefix, hseen, all⟩ := shows.seen
  -- the texts seen are those of a front of the schedule
  obtain ⟨rest, hrest⟩ := hprefix
  obtain ⟨front, back, hschedule, rfl, -⟩ := List.map_eq_append_iff.1 hrest.symm
  refine ⟨?_, front, ⟨back, hschedule.symm⟩, ?_, fun hended going => ?_⟩
  · rw [same, textOf_eq_ok_iff.1 shows.text, textOf_eq_ok_iff.1 readable]
  · rw [same, hseen, List.map_map]
    rfl
  -- a run ends well if every stage did, or if an interrupt stopped them
  · rcases well hended with hall | stopped
    · have lengths := congrArg List.length (all () hall)
      rw [List.length_map, List.length_map, hschedule, List.length_append] at lengths
      have none_left : back = [] := List.eq_nil_of_length_eq_zero (by omega)
      rw [hschedule, none_left, List.append_nil]
    · have asked := shows.interrupted stopped
      rw [← same, going] at asked
      cases asked

end

/-- A project whose build file is one line. -/
def oneLineProject : Session :=
  { Session.empty "/p" {} with
    tree := .directory [(Session.buildFile, .file "x = 1\n".toUTF8 false)] }

theorem textOf_oneLineProject : textOf oneLineProject.tree = .ok "x = 1\n" :=
  textOf_eq_ok_iff.2 rfl

/-- Two functions without parameters. -/
def plainFunctions : List Callable :=
  ["project", "message"].map fun name => ⟨name, none, [⟨name, none, [], .none⟩]⟩

/-- Functions without parameters need neither types nor templates. -/
def plainAudit : Audit := ⟨⟨[], [], ⟨[]⟩⟩, ⟨[], [], none⟩, {}⟩

theorem run_leaves_one_line_project :
    Session.quietTool.KeepsBuildFile ∧ textOf oneLineProject.tree = .ok "x = 1\n" ∧
      Complete "x = 1\n" ∧
      (plainAudit.schedule (.ofSeed 0) (checks [] plainFunctions)).map
          (fun (check, p) => (check.base "x = 1\n", p.lines))
        = [("", ["project()"]), ("x = 1\n", ["message()"])] ∧
      let ended := plainAudit.run Session.quietTool (.ofSeed 0) [] plainFunctions oneLineProject
      let after := ended.2.session
      bytesOf? after.tree = bytesOf? oneLineProject.tree ∧
      ∃ done, done <+: plainAudit.schedule (.ofSeed 0) (checks [] plainFunctions) ∧
        after.seen = oneLineProject.seen ++ done.map (fun entry =>
          .ok (view oneLineProject.location "x = 1\n" entry)) ∧
        (ended.1 = .ok () → after.interrupted = false →
          done = plainAudit.schedule (.ofSeed 0) (checks [] plainFunctions)) := by
  have keeps : Session.quietTool.KeepsBuildFile := fun _ _ => rfl
  have readable : textOf oneLineProject.tree = .ok "x = 1\n" := textOf_eq_ok_iff.2 rfl
  have complete : Complete "x = 1\n" := by decide
  refine ⟨keeps, readable, complete, rfl, ?_⟩
  exact (run_leaves_build_file keeps oneLineProject plainAudit (.ofSeed 0) [] plainFunctions).2 _
    readable complete

end SignatureAudit.Audit
