import SignatureAudit.Project.Session
import SignatureAudit.Proofs.Effect
import SignatureAudit.Proofs.FileTree.Basic
import SignatureAudit.Proofs.Project.BuildText

/-!
# What the operations on a project do

One lemma for each operation on the build file: what it answers on a session and which session it
leaves, given what the build file holds. Only the tree of the session changes, except by a run of
the tool. `run_probe` puts them together for a probe by a tool that leaves the build file alone:

> the tool sees the text of the build file with the candidate lines and the sentinel behind it, and
> the probe leaves the *complete part* of that text.
-/

namespace SignatureAudit

/-- The bytes of the build file of a tree, if it is a file. -/
def Session.bytesOf? (tree : FileNode) : Option ByteArray :=
  match tree.get? [Session.buildFile] with
  | some (.file bytes _) => some bytes
  | _ => none

/-- The tool never writes the build file. -/
def Tool.KeepsBuildFile (tool : Tool) : Prop :=
  ∀ number call, Session.bytesOf? (tool number call).project = Session.bytesOf? call.project

namespace Session

open Project (Fault BuildText.append BuildText.lineCount BuildText.popLines BuildText.removeLine)
open Text (Complete completePart)

variable {tool : Tool} {tree : FileNode} {s : Session} {text : String}

/-! ## The build file of a tree -/

theorem get?_buildFile (tree : FileNode) :
    tree.get? [buildFile] = tree.entries.lookup buildFile := by
  cases tree with
  | file bytes runnable => rfl
  | directory entries =>
    show (entries.lookup buildFile).bind (FileNode.get? []) = entries.lookup buildFile
    cases entries.lookup buildFile <;> rfl

theorem textOf_eq_ok_iff : textOf tree = .ok text ↔ bytesOf? tree = some text.toUTF8 := by
  rw [textOf, bytesOf?]
  cases tree.get? [buildFile] with
  | none => simp
  | some node =>
    cases node with
    | directory entries => simp
    | file bytes runnable =>
      simp only [String.fromUTF8?, Option.some.injEq]
      by_cases valid : bytes.IsValidUTF8
      · simp only [dif_pos valid, Except.ok.injEq]
        exact String.toByteArray_inj.symm
      · simp only [dif_neg valid]
        constructor
        · intro h
          cases h
        · rintro rfl
          exact absurd text.isValidUTF8 valid

/-- A text can be written wherever no directory stands in its place, and is read back. -/
theorem exists_withText (h : ∀ entries, tree.get? [buildFile] ≠ some (.directory entries))
    (text : String) : ∃ new, withText tree text = .ok new ∧ textOf new = .ok text := by
  have put (runnable : Bool) : textOf (.directory
      (FileNode.setEntry buildFile (.file text.toUTF8 runnable) tree.entries)) = .ok text := by
    rw [textOf_eq_ok_iff, bytesOf?, get?_buildFile, FileNode.entries,
      FileNode.lookup_setEntry_self]
  rw [withText]
  cases found : tree.get? [buildFile] with
  | none => exact ⟨_, rfl, put false⟩
  | some node =>
    cases node with
    | directory entries => exact absurd found (h entries)
    | file bytes runnable => exact ⟨_, rfl, put runnable⟩

theorem get?_ne_directory (readable : textOf tree = .ok text) (entries : List (String × FileNode)) :
    tree.get? [buildFile] ≠ some (.directory entries) := by
  intro h
  rw [textOf, h] at readable
  cases readable

/-! ## Reading and writing -/

/-- The session with another tree. -/
def onTree (s : Session) (tree : FileNode) : Session := { s with tree }

@[simp] theorem tree_onTree (s : Session) (tree : FileNode) : (s.onTree tree).tree = tree := rfl

@[simp] theorem location_onTree (s : Session) (tree : FileNode) :
    (s.onTree tree).location = s.location := rfl

@[simp] theorem settings_onTree (s : Session) (tree : FileNode) :
    (s.onTree tree).settings = s.settings := rfl

@[simp] theorem saved_onTree (s : Session) (tree : FileNode) :
    (s.onTree tree).saved = s.saved := rfl

@[simp] theorem calls_onTree (s : Session) (tree : FileNode) :
    (s.onTree tree).calls = s.calls := rfl

@[simp] theorem interrupted_onTree (s : Session) (tree : FileNode) :
    (s.onTree tree).interrupted = s.interrupted := rfl

@[simp] theorem buildDirectory_onTree (s : Session) (tree : FileNode) :
    (s.onTree tree).buildDirectory = s.buildDirectory := rfl

theorem run_ofExcept {α : Type} (x : Except Fault α) (s : Session) :
    runOn (ofExcept x) s = (x, s) := by
  cases x <;> rfl

theorem run_content (s : Session) : runOn content s = (textOf s.tree, s) := by
  rw [content, runOn_bind_ok (runOn_get s), run_ofExcept]

theorem run_write (h : ∀ entries, s.tree.get? [buildFile] ≠ some (.directory entries))
    (text : String) :
    ∃ tree, textOf tree = .ok text ∧ runOn (write text) s = (.ok (), s.onTree tree) := by
  obtain ⟨tree, written, same⟩ := exists_withText h text
  refine ⟨tree, same, ?_⟩
  have put := run_ofExcept (withText s.tree text) s
  rw [written] at put
  rw [write, runOn_bind_ok (runOn_get s), written, runOn_bind_ok put, runOn_modify, onTree]

/-- Where a directory stands in the place of the build file, nothing is written. -/
theorem run_write_directory {entries : List (String × FileNode)}
    (h : s.tree.get? [buildFile] = some (.directory entries)) (text : String) :
    runOn (write text) s = (.error (.file .isDirectory), s) := by
  have refused : withText s.tree text = .error (.file .isDirectory) := by rw [withText, h]
  have put := run_ofExcept (withText s.tree text) s
  rw [refused] at put
  rw [write, runOn_bind_ok (runOn_get s), refused, runOn_bind_error put]

section

variable {f : String → Except Fault String} {new : String} {fault : Fault}

theorem run_edit_ok (readable : textOf s.tree = .ok text) (edited : f text = .ok new) :
    ∃ tree, textOf tree = .ok new ∧ runOn (edit f) s = (.ok (), s.onTree tree) := by
  obtain ⟨tree, same, ran⟩ := run_write (get?_ne_directory readable) new
  refine ⟨tree, same, ?_⟩
  have read := run_content s
  have changed := run_ofExcept (f text) s
  rw [readable] at read
  rw [edited] at changed
  rw [edit, runOn_bind_ok read, edited, runOn_bind_ok changed, ran]

theorem run_edit_error (readable : textOf s.tree = .ok text) (refused : f text = .error fault) :
    runOn (edit f) s = (.error fault, s) := by
  have read := run_content s
  have changed := run_ofExcept (f text) s
  rw [readable] at read
  rw [refused] at changed
  rw [edit, runOn_bind_ok read, refused, runOn_bind_error changed]

theorem run_edit_unreadable (unreadable : textOf s.tree = .error fault) :
    runOn (edit f) s = (.error fault, s) := by
  have read := run_content s
  rw [unreadable] at read
  rw [edit, runOn_bind_error read]

end

theorem run_appendLines (readable : textOf s.tree = .ok text) (lines : List String) :
    ∃ tree, textOf tree = .ok (BuildText.append s.location text lines) ∧
      runOn (appendLines lines) s = (.ok (), s.onTree tree) := by
  rw [appendLines, runOn_bind_ok (runOn_get s)]
  exact run_edit_ok readable rfl

theorem run_lineCount (readable : textOf s.tree = .ok text) :
    runOn lineCount s = (.ok (BuildText.lineCount text), s) := by
  rw [lineCount, runOn_map, run_content, readable]
  rfl

theorem run_snapshot (readable : textOf s.tree = .ok text) :
    runOn snapshot s = (.ok (), { s with saved := some text }) := by
  have read := run_content s
  rw [readable] at read
  rw [snapshot, runOn_bind_ok read, runOn_modify]

theorem run_restore (h : ∀ entries, s.tree.get? [buildFile] ≠ some (.directory entries))
    (saved : s.saved = some text) :
    ∃ tree, textOf tree = .ok text ∧
      runOn restore s = (.ok (), { s.onTree tree with saved := none }) := by
  obtain ⟨tree, same, ran⟩ := run_write (s := { s with saved := none }) h text
  refine ⟨tree, same, ?_⟩
  rw [restore, runOn_bind_ok (runOn_get s), saved, runOn_bind_ok (runOn_modify ..), ran]
  rfl

theorem run_restore_empty (saved : s.saved = none) : runOn restore s = (.error .noSnapshot, s) := by
  rw [restore, runOn_bind_ok (runOn_get s), saved, runOn_throw]

/-! ## Runs of the tool -/

/-- The session behind a run of the tool. -/
def answered (s : Session) (call : Tool.Call) (reply : Tool.Reply) : Session :=
  { s with
    tree := reply.project
    outside := reply.outside?.getD s.outside
    calls := s.calls.push call
    interrupted := s.interrupted || reply.interrupts }

/-- A run of the tool that keeps the build file lets its text be read again. -/
theorem textOf_reply (keeps : tool.KeepsBuildFile) {number : Nat} {call : Tool.Call}
    (readable : textOf call.project = .ok text) : textOf (tool number call).project = .ok text := by
  rw [textOf_eq_ok_iff, keeps, ← textOf_eq_ok_iff, readable]

/-- What a probe behind so many lines answers, given how the tool ended. -/
def outcomeOf (warningsAsErrors : Bool) (before : Nat) :
    Except Tool.Failure Tool.Output → Except Fault Outcome
  | .ok output =>
    .ok (.ofDiagnosis before (Diagnosis.diagnose output.stdout output.stderr warningsAsErrors)
      output.stdout output.stderr)
  | .error (.timeout limit) => .ok (.ofDiagnosis before (.timeout limit) "" "")
  | .error failure => .error (.tool failure)

/-- The run of the tool that a probe makes, on a tree with the candidate lines. -/
def probeCall (s : Session) (shown : FileNode) : Tool.Call :=
  { args := s.settings.reconfigureArgs
    directory := s.buildDirectory
    project := shown
    outside := s.outside }

/-- A probe runs the tool once, on the text with the lines and the sentinel behind it. Its answer is
read off that run alone, and the complete part of the text is left. -/
theorem run_probe (keeps : tool.KeepsBuildFile) (readable : textOf s.tree = .ok text)
    (lines : List String) :
    ∃ shown left, textOf shown = .ok (BuildText.append s.location text (lines ++ [sentinel])) ∧
      textOf left = .ok (completePart text) ∧
      let call := s.probeCall shown
      let reply := tool s.calls.size call
      runOn (probe tool lines) s =
        (outcomeOf s.settings.warningsAsErrors (BuildText.lineCount text) reply.result,
          (s.answered call reply).onTree left) := by
  obtain ⟨shown, hshown, appended⟩ := run_appendLines readable (lines ++ [sentinel])
  have invoked : runOn (invoke tool s.settings.reconfigureArgs s.buildDirectory) (s.onTree shown)
      = (.ok (tool s.calls.size (s.probeCall shown)).result,
        s.answered (s.probeCall shown) (tool s.calls.size (s.probeCall shown))) := rfl
  have kept : textOf (tool s.calls.size (s.probeCall shown)).project
      = .ok (BuildText.append s.location text (lines ++ [sentinel])) := textOf_reply keeps hshown
  have popped := Project.BuildText.popLines_append s.location text
    (List.concat_ne_nil sentinel lines)
  obtain ⟨left, hleft, taken⟩ := run_edit_ok
    (s := s.answered (s.probeCall shown) (tool s.calls.size (s.probeCall shown)))
    (f := (BuildText.popLines · (lines ++ [sentinel]).length)) kept popped
  refine ⟨shown, left, hshown, hleft, ?_⟩
  intro call reply
  rw [probe, runOn_bind_ok (run_lineCount readable)]
  simp only
  rw [runOn_bind_ok appended, runOn_bind_ok (runOn_get _), settings_onTree, buildDirectory_onTree,
    runOn_bind_ok invoked, popLines, runOn_bind_ok taken]
  -- the answer depends on how the tool ended, the session does not
  cases tool s.calls.size (s.probeCall shown) |>.result with
  | ok output => rfl
  | error failure => cases failure <;> rfl

theorem run_probe_unreadable {fault : Fault} (unreadable : textOf s.tree = .error fault)
    (tool : Tool) (lines : List String) : runOn (probe tool lines) s = (.error fault, s) := by
  have counted : runOn lineCount s = (.error fault, s) := by
    rw [lineCount, runOn_map, run_content, unreadable]
    rfl
  rw [probe, runOn_bind_error counted]

/-- A probe saves nothing and takes nothing saved. -/
theorem saved_probe (keeps : tool.KeepsBuildFile) (s : Session) (lines : List String) :
    (runOn (probe tool lines) s).2.saved = s.saved := by
  cases h : textOf s.tree with
  | error fault => rw [run_probe_unreadable h]
  | ok text =>
    obtain ⟨shown, left, -, -, ran⟩ := run_probe keeps h lines
    rw [ran]
    rfl

/-! ## What the tool sees -/

/-- What the runs of the tool so far saw in the build file. -/
def seen (s : Session) : List (Except Fault String) :=
  s.calls.toList.map fun call => textOf call.project

/-- What a probe shows the tool: a text, the lines behind it, and the sentinel line. -/
def shown (location base : String) (lines : List String) : String :=
  BuildText.append location base lines ++ sentinel ++ "\n"

/-- The sentinel has nothing to escape. -/
theorem escape_sentinel (location : String) :
    Project.BuildText.escape location sentinel = sentinel := by
  have whole (marker : String) (h : Text.pieces marker sentinel = [sentinel]) (new : String) :
      Text.replaceAll sentinel marker new = sentinel := by
    rw [Text.replaceAll, h]
    simp
  rw [Project.BuildText.escape, Template.placeDirectory, whole _ (by decide), whole _ (by decide)]

theorem append_sentinel (location base : String) (lines : List String) :
    BuildText.append location base (lines ++ [sentinel]) = shown location base lines := by
  rw [shown, BuildText.append, BuildText.append, List.map_append, String.join_append]
  simp [escape_sentinel, String.append_assoc]

end Session

end SignatureAudit
