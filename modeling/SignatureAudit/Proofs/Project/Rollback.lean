import SignatureAudit.Proofs.Project.Session

/-!
# When a probe gives the build file back

A probe counts lines: it adds some and takes as many away. So it gives back the *complete part* of
the build file, which is the build file exactly when its last line is ended (`probe_restores_iff`).

Every operation that writes lines ends them, so the text stays complete (`after_linesEnded`), and a
saved text was complete when it was saved. Only copying files over the project can put an open line
into the build file: from there on, and until the line is ended or removed, probes are no longer
undone (`probe_drops_open_line`).
-/

namespace SignatureAudit.Session

open Project (Fault BuildText.append BuildText.popLines BuildText.removeLine)
open Text (Complete completePart)

/-! ## What a probe leaves -/

/-- A probe leaves the complete part of a build file that can be read, and any other alone. -/
theorem bytesOf?_probe {tool : Tool} (keeps : tool.KeepsBuildFile) (s : Session)
    (lines : List String) :
    bytesOf? (runOn (probe tool lines) s).2.tree =
      match textOf s.tree with
      | .ok text => some (completePart text).toUTF8
      | .error _ => bytesOf? s.tree := by
  cases h : textOf s.tree with
  | error fault => rw [run_probe_unreadable h]
  | ok text =>
    obtain ⟨shown, left, -, hleft, ran⟩ := run_probe keeps h lines
    rw [ran]
    exact textOf_eq_ok_iff.1 hleft

/-- The text of the build file, if it has one, is complete. -/
def EndsLines (s : Session) : Prop := ∀ text, textOf s.tree = .ok text → Complete text

theorem bytesOf?_probe_eq_iff {tool : Tool} (keeps : tool.KeepsBuildFile) (s : Session)
    (lines : List String) :
    bytesOf? (runOn (probe tool lines) s).2.tree = bytesOf? s.tree ↔ s.EndsLines := by
  rw [bytesOf?_probe keeps]
  cases h : textOf s.tree with
  | error fault => simp [EndsLines, h]
  | ok text =>
    have bytes := textOf_eq_ok_iff.1 h
    constructor
    · intro same text' h'
      obtain rfl := Except.ok.inj (h.symm.trans h')
      rw [bytes, Option.some.injEq] at same
      exact Text.completePart_eq_self_iff.1 (String.toByteArray_inj.1 same)
    · intro ends
      simp only [bytes, Text.completePart_eq_self_iff.2 (ends text h)]

/-! ## What the other operations leave -/

/-- What can be done with a project between its creation and a probe. -/
inductive Operation
  | appendLines (lines : List String)
  | removeLine (index : Nat)
  | popLines (n : Nat)
  | snapshot
  | restore
  | clear
  | addFile (name : String) (source : Except FileFault FileNode)
  | addFixtures (source : Except FileFault FileNode)
  | probe (lines : List String)

namespace Operation

/-- The work that an operation is. -/
def work (tool : Tool) : Operation → Work Unit
  | .appendLines lines => Session.appendLines lines
  | .removeLine index => Session.removeLine index
  | .popLines n => Session.popLines n
  | .snapshot => Session.snapshot
  | .restore => Session.restore
  | .clear => Session.clear
  | .addFile name source => Session.addFile name source
  | .addFixtures source => Session.addFixtures source
  | .probe lines => do let _ ← Session.probe tool lines

/-- The session behind an operation, also behind one that failed. -/
def after (tool : Tool) (op : Operation) (s : Session) : Session := (runOn (op.work tool) s).2

/-- If the operation is a copy that writes the build file, it writes a complete text. -/
def EndsLines (tool : Tool) : Operation → Session → Prop
  | .addFile name source, s => (after tool (.addFile name source) s).EndsLines
  | .addFixtures source, s => (after tool (.addFixtures source) s).EndsLines
  | _, _ => True

end Operation

/-- The session behind some operations in a row. -/
def afterAll (tool : Tool) (s : Session) : List Operation → Session
  | [] => s
  | op :: rest => (op.after tool s).afterAll tool rest

/-- No copy among some operations in a row leaves an open line in the build file. -/
def CopiesEndLines (tool : Tool) : List Operation → Session → Prop
  | [], _ => True
  | op :: rest, s => op.EndsLines tool s ∧ CopiesEndLines tool rest (op.after tool s)

/-- Neither the build file nor what was saved of it has an open line. -/
structure LinesEnded (s : Session) : Prop where
  text : s.EndsLines
  saved : ∀ text, s.saved = some text → Complete text

section

variable {tool : Tool} {s : Session} {text : String}

theorem endsLines_of_textOf (h : textOf s.tree = .ok text) (complete : Complete text) :
    s.EndsLines := by
  intro text' h'
  obtain rfl := Except.ok.inj (h.symm.trans h')
  exact complete

theorem LinesEnded.edit {f : String → Except Fault String} (hs : s.LinesEnded)
    (hf : ∀ text new, Complete text → f text = .ok new → Complete new) :
    (runOn (Session.edit f) s).2.LinesEnded := by
  cases h : textOf s.tree with
  | error fault =>
    rw [run_edit_unreadable h]
    exact hs
  | ok text =>
    cases hnew : f text with
    | error fault =>
      rw [run_edit_error h hnew]
      exact hs
    | ok new =>
      obtain ⟨tree, htree, ran⟩ := run_edit_ok h hnew
      rw [ran]
      exact ⟨endsLines_of_textOf htree (hf text new (hs.text text h) hnew), hs.saved⟩

theorem LinesEnded.write (hs : s.LinesEnded) (complete : Complete text) :
    (runOn (Session.write text) s).2.LinesEnded := by
  by_cases h : ∃ entries, s.tree.get? [buildFile] = some (.directory entries)
  · obtain ⟨entries, hdir⟩ := h
    rw [run_write_directory hdir]
    exact hs
  · obtain ⟨tree, htree, ran⟩ := run_write (fun entries he => h ⟨entries, he⟩) text
    rw [ran]
    exact ⟨endsLines_of_textOf htree complete, hs.saved⟩

theorem LinesEnded.snapshot (hs : s.LinesEnded) : (runOn Session.snapshot s).2.LinesEnded := by
  cases h : textOf s.tree with
  | error fault =>
    have read := run_content s
    rw [h] at read
    rw [Session.snapshot, runOn_bind_error read]
    exact hs
  | ok text =>
    rw [run_snapshot h]
    refine ⟨hs.text, fun saved hsaved => ?_⟩
    obtain rfl := Option.some.inj hsaved
    exact hs.text text h

theorem LinesEnded.restore (hs : s.LinesEnded) : (runOn Session.restore s).2.LinesEnded := by
  cases h : s.saved with
  | none =>
    rw [run_restore_empty h]
    exact hs
  | some text =>
    rw [Session.restore, runOn_bind_ok (runOn_get s), h, runOn_bind_ok (runOn_modify ..)]
    exact LinesEnded.write ⟨hs.text, fun _ h => by cases h⟩ (hs.saved text h)

theorem LinesEnded.probe (keeps : tool.KeepsBuildFile) (hs : s.LinesEnded) (lines : List String) :
    (runOn (Session.probe tool lines) s).2.LinesEnded := by
  cases h : textOf s.tree with
  | error fault =>
    rw [run_probe_unreadable h]
    exact hs
  | ok text =>
    obtain ⟨shown, left, -, hleft, ran⟩ := run_probe keeps h lines
    rw [ran]
    exact ⟨endsLines_of_textOf hleft (Text.complete_completePart text), hs.saved⟩

/-- Copying does not touch what was saved. -/
theorem saved_addFile (name : String) (source : Except FileFault FileNode) (s : Session) :
    (runOn (Session.addFile name source) s).2.saved = s.saved := by
  rw [Session.addFile, runOn_bind_ok (runOn_get s)]
  cases source with
  | error fault => rfl
  | ok source =>
    cases FilePath.ofText (FileNode.join s.location name) with
    | error fault => rfl
    | ok path =>
      simp only
      rw [runOn_bind_ok (runOn_get s), runOn_bind_ok (runOn_set ..)]
      cases (source.copyTo path s.machine []).2 <;> rfl

theorem saved_addFixtures (source : Except FileFault FileNode) (s : Session) :
    (runOn (Session.addFixtures source) s).2.saved = s.saved := by
  cases source with
  | error fault => rfl
  | ok source =>
    cases source with
    | file bytes runnable => rfl
    | directory sources =>
      simp only [Session.addFixtures]
      rw [runOn_bind_ok (runOn_get s), runOn_bind_ok (runOn_set ..)]
      split <;> rfl

/-- Every operation keeps the lines ended, if it is no copy that opens one. -/
theorem LinesEnded.after (keeps : tool.KeepsBuildFile) (hs : s.LinesEnded) (op : Operation)
    (hop : op.EndsLines tool s) : (op.after tool s).LinesEnded := by
  cases op with
  | appendLines lines =>
    rw [Operation.after, Operation.work, Session.appendLines, runOn_bind_ok (runOn_get s)]
    refine hs.edit fun text new complete added => ?_
    obtain rfl := Except.ok.inj added
    exact Project.BuildText.complete_append complete
  | removeLine index => exact hs.edit fun _ _ => Project.BuildText.complete_of_removeLine
  | popLines n => exact hs.edit fun _ _ => Project.BuildText.complete_of_popLines
  | snapshot => exact hs.snapshot
  | restore => exact hs.restore
  | clear => exact hs.write (.inl rfl)
  | addFile name source =>
    exact ⟨hop, fun text h => hs.saved text (saved_addFile name source s ▸ h)⟩
  | addFixtures source => exact ⟨hop, fun text h => hs.saved text (saved_addFixtures source s ▸ h)⟩
  | probe lines =>
    exact runOn_bind_keeps (hs.probe keeps lines) fun _ _ left => left

theorem LinesEnded.afterAll (keeps : tool.KeepsBuildFile) (hs : s.LinesEnded)
    (ops : List Operation) (hops : CopiesEndLines tool ops s) :
    (s.afterAll tool ops).LinesEnded := by
  induction ops generalizing s with
  | nil => exact hs
  | cons op rest ih => exact ih (hs.after keeps op hops.1) hops.2

/-! ## From the creation on -/

/-- What holds the same bytes ends its lines alike. -/
theorem EndsLines.of_bytes {t : Session} (hs : s.EndsLines)
    (same : bytesOf? t.tree = bytesOf? s.tree) : t.EndsLines := by
  intro text h
  rw [textOf_eq_ok_iff, same, ← textOf_eq_ok_iff] at h
  exact hs text h

/-- Fixtures without a build file of their own leave the build file alone. -/
theorem bytesOf?_addFixtures {source : Except FileFault FileNode}
    (spared : ∀ sources, source = .ok (.directory sources) → sources.lookup buildFile = none)
    (s : Session) :
    bytesOf? (runOn (Session.addFixtures source) s).2.tree = bytesOf? s.tree := by
  cases source with
  | error fault => rfl
  | ok source =>
    cases source with
    | file bytes runnable => rfl
    | directory sources =>
      -- that a copy broke off shows in the answer alone
      have kept (complete : Bool) (t : Session) : (runOn (if (!complete) = true then
          throw (Fault.file .isDirectory) else pure () : Work PUnit) t).2 = t := by
        cases complete <;> rfl
      simp only [Session.addFixtures]
      rw [runOn_bind_ok (runOn_get s), runOn_bind_ok (runOn_set ..), kept]
      rw [bytesOf?, bytesOf?, get?_buildFile, get?_buildFile, FileNode.entries,
        FileNode.lookup_overlayEntries (spared sources rfl)]

/-- No fixture of a new project takes the place of its build file. -/
def FixturesSpareBuildFile (files : String → Except FileFault FileNode)
    (settings : ProjectSettings) : Prop :=
  ∀ path sources, settings.fixtures = some path → files path = .ok (.directory sources) →
    sources.lookup buildFile = none

theorem LinesEnded.invoke (keeps : tool.KeepsBuildFile) (hs : s.LinesEnded) (args : List String)
    (directory : String) : (runOn (Session.invoke tool args directory) s).2.LinesEnded :=
  ⟨hs.text.of_bytes (keeps ..), hs.saved⟩

theorem LinesEnded.addFixtures {source : Except FileFault FileNode} (hs : s.LinesEnded)
    (spared : ∀ sources, source = .ok (.directory sources) → sources.lookup buildFile = none) :
    (runOn (Session.addFixtures source) s).2.LinesEnded :=
  ⟨hs.text.of_bytes (bytesOf?_addFixtures spared s),
    fun text h => hs.saved text (saved_addFixtures source s ▸ h)⟩

/-- The end of a setup: the tool judges the project. -/
def configure (tool : Tool) (settings : ProjectSettings) (location : String) : Work Unit := do
  match ← invoke tool settings.setupArgs location with
  | .error failure => throw (.configuration failure.message "")
  | .ok output =>
    if !output.success then
      throw (.configuration ("setup exited with " ++ statusText output.status) output.stdout)

/-- Whatever the tool says about the project, what it left stays. -/
theorem LinesEnded.configure (keeps : tool.KeepsBuildFile) (hs : s.LinesEnded)
    (settings : ProjectSettings) (location : String) :
    (runOn (Session.configure tool settings location) s).2.LinesEnded := by
  refine runOn_bind_keeps (hs.invoke keeps ..) fun result u hu => ?_
  cases result with
  | error failure => exact hu
  | ok output => cases h : output.success <;> simpa [h] using hu

theorem linesEnded_setup (keeps : tool.KeepsBuildFile)
    {files : String → Except FileFault FileNode} (fresh : s.tree = .directory [])
    (unsaved : s.saved = none) (spared : FixturesSpareBuildFile files s.settings) :
    (runOn (setup tool files) s).2.LinesEnded := by
  have absent : ∀ entries, s.tree.get? [buildFile] ≠ some (.directory entries) := by
    intro entries h
    rw [fresh] at h
    cases h
  obtain ⟨first, hfirst, written⟩ := run_write absent ""
  obtain ⟨second, hsecond, appended⟩ := run_appendLines (s := s.onTree first) hfirst
    [s.settings.projectLine]
  have begun : ((s.onTree first).onTree second).LinesEnded := by
    refine ⟨endsLines_of_textOf hsecond ?_, fun text h => ?_⟩
    · exact Project.BuildText.complete_append (.inl rfl)
    · have := unsaved.symm.trans h
      cases this
  rw [setup, runOn_bind_ok (runOn_get _), runOn_bind_ok written, runOn_bind_ok appended]
  cases fixtures : s.settings.fixtures with
  | none => exact begun.configure keeps s.settings s.location
  | some path =>
    refine runOn_bind_keeps (begun.addFixtures fun sources => ?_) fun _ u left => ?_
    · exact spared path sources fixtures
    · exact left.configure keeps s.settings s.location

theorem linesEnded_create (keeps : tool.KeepsBuildFile)
    {files : String → Except FileFault FileNode} {settings : ProjectSettings}
    (spared : FixturesSpareBuildFile files settings) (location : String) (outside : FileNode) :
    (create tool files location settings outside).2.LinesEnded :=
  linesEnded_setup (s := { empty location settings with outside }) keeps rfl rfl spared

/-- **When probes are undone.** In every state that a created project can reach, a probe gives the
build file back byte for byte exactly if the text of the build file is complete. It always is unless
a file that was copied into the project, at its creation or later, brought an open line with it. -/
theorem probe_restores_iff {files : String → Except FileFault FileNode} {settings : ProjectSettings}
    {location : String} {outside : FileNode} (keeps : tool.KeepsBuildFile)
    (created : create tool files location settings outside = (.ok (), s))
    (ops : List Operation) (lines : List String) :
    let before := s.afterAll tool ops
    let after := (runOn (Session.probe tool lines) before).2
    (bytesOf? after.tree = bytesOf? before.tree ↔ before.EndsLines) ∧
      (FixturesSpareBuildFile files settings → CopiesEndLines tool ops s →
        bytesOf? after.tree = bytesOf? before.tree) := by
  intro before after
  have exact_when := bytesOf?_probe_eq_iff keeps before lines
  refine ⟨exact_when, fun spared copies => exact_when.2 ?_⟩
  -- what was saved counts too, since restoring brings it back
  have begun : s.LinesEnded := by
    have := linesEnded_create keeps spared location outside
    rwa [created] at this
  exact (begun.afterAll keeps ops copies).text

end

/-- A tool that always ends well and changes nothing. -/
def quietTool : Tool := fun _ call => { result := .ok {}, project := call.project }

/-- A project without fixtures. -/
def plainProject : Session := (create quietTool (fun _ => .error .missing) "/p" {}).2

/-- Copying a build file with an ended line is undone like all else. -/
def copiedBuildFile : List Operation :=
  [.appendLines ["x = 1\n"], .snapshot,
    .addFixtures (.ok (.directory [(buildFile, .file "y\n".toUTF8 false)]))]

theorem probe_restores_copied_build_file :
    quietTool.KeepsBuildFile ∧
      create quietTool (fun _ => .error .missing) "/p" {} = (.ok (), plainProject) ∧
      FixturesSpareBuildFile (fun _ => .error .missing) {} ∧
      CopiesEndLines quietTool copiedBuildFile plainProject ∧
      bytesOf? (runOn (Session.probe quietTool ["a\nb", "$BUILDFILE_DIR$"])
        (plainProject.afterAll quietTool copiedBuildFile)).2.tree
        = bytesOf? (plainProject.afterAll quietTool copiedBuildFile).tree := by
  have keeps : quietTool.KeepsBuildFile := fun _ _ => rfl
  have created : create quietTool (fun _ => .error .missing) "/p" {} = (.ok (), plainProject) := rfl
  have spared : FixturesSpareBuildFile (fun _ => .error .missing) {} := by
    intro path sources h
    cases h
  have copies : CopiesEndLines quietTool copiedBuildFile plainProject := by
    refine ⟨trivial, trivial, ?_, trivial⟩
    have copied : textOf (plainProject.afterAll quietTool copiedBuildFile).tree = .ok "y\n" :=
      textOf_eq_ok_iff.2 rfl
    exact endsLines_of_textOf copied (by decide)
  exact ⟨keeps, created, spared, copies,
    (probe_restores_iff keeps created copiedBuildFile _).2 spared copies⟩

/-- Fixtures with a build file whose line is open. -/
def openFixtures : String → Except FileFault FileNode := fun _ =>
  .ok (.directory [(buildFile, .file "x".toUTF8 false)])

/-- A project with these fixtures. -/
def openProject : Session := (create quietTool openFixtures "/p" { fixtures := some "f" }).2

/-- The first probe of a new project can lose a line for good. -/
theorem probe_drops_open_line :
    quietTool.KeepsBuildFile ∧
      create quietTool openFixtures "/p" { fixtures := some "f" } = (.ok (), openProject) ∧
      bytesOf? openProject.tree = some "x".toUTF8 ∧
      bytesOf? (runOn (Session.probe quietTool []) openProject).2.tree = some "".toUTF8 ∧
      bytesOf? (runOn (Session.probe quietTool []) openProject).2.tree
        ≠ bytesOf? openProject.tree := by
  have keeps : quietTool.KeepsBuildFile := fun _ _ => rfl
  have before : bytesOf? openProject.tree = some "x".toUTF8 := rfl
  have after : bytesOf? (runOn (Session.probe quietTool []) openProject).2.tree
      = some "".toUTF8 := by
    rw [bytesOf?_probe keeps, textOf_eq_ok_iff.2 before]
    rfl
  refine ⟨keeps, rfl, before, after, ?_⟩
  rw [before, after]
  decide

end SignatureAudit.Session
