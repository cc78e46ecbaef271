import SignatureAudit.Proofs.Project.Rollback
import Mathlib.Data.List.DropRight

/-!
# The build file as a list of lines

A *line buffer* is a list of lines with a slot for saved lines, and what can be asked of it are
operations on lists (`LineBuffer.step`). The build file of a session *holds* a buffer if its text is
the lines of the buffer, each with a newline behind it, and if what is saved are the saved lines.

A build file that holds a buffer answers every request as the buffer does, and then holds the buffer
that the request leaves (`Holds.step`). A new project without fixtures holds the one line that
declares it, so any requests in a row are answered, and leave what they leave, as on that one line
(`requests_refine_lines`): the text that is split into lines each time and the saved text are no
longer needed to say what they do.
-/

namespace SignatureAudit

open Project (Fault BuildText.append BuildText.escape)

/-! ## Lines in a row -/

/-- A text without a newline. -/
abbrev Line := { text : String // '\n' ∉ text.toList }

namespace Line

/-- A text as one line: newlines are escaped, and the marker of the directory is replaced. -/
def escaped (location text : String) : Line :=
  ⟨BuildText.escape location text, Project.BuildText.newline_notMem_escape location text⟩

/-- The line with a newline behind it. -/
def ended (line : Line) : String := line.val ++ "\n"

/-- The text of some lines, each with a newline behind it. -/
def textOf (lines : List Line) : String := String.join (lines.map ended)

theorem textOf_append (front back : List Line) :
    textOf (front ++ back) = textOf front ++ textOf back := by
  rw [textOf, List.map_append, String.join_append]
  rfl

/-- Appended texts become one line each. -/
theorem append_textOf (location : String) (lines : List Line) (texts : List String) :
    BuildText.append location (textOf lines) texts
      = textOf (lines ++ texts.map (escaped location)) := by
  rw [textOf_append, BuildText.append, textOf, textOf, List.map_map]
  rfl

/-- Every line is one physical line of the text. -/
theorem physicalLines_textOf (lines : List Line) :
    Text.physicalLines (textOf lines) = lines.map ended := by
  have unbroken : ∀ line ∈ lines.map fun line => line.val.toList, '\n' ∉ line := by
    intro line hline
    obtain ⟨source, -, rfl⟩ := List.mem_map.1 hline
    exact source.property
  have joined : (textOf lines).toList = Text.ended (lines.map fun line => line.val.toList) := by
    simp [textOf, ended, String.toList_join, Text.ended, List.flatMap_map]
  rw [Text.physicalLines, joined, Text.splitLines_ended unbroken, List.map_map, List.map_map]
  refine List.map_congr_left fun line _ => ?_
  rw [← String.toList_inj]
  simp [ended]

theorem withoutNewline_ended (line : Line) : Text.withoutNewline line.ended = line.val := by
  have stays : line.val.toList.reverse.dropWhile (· == '\n') = line.val.toList.reverse := by
    refine List.dropWhile_eq_self_iff.2 fun nonempty => ?_
    have first := List.mem_reverse.1 (List.getElem_mem nonempty)
    intro newline
    rw [eq_of_beq newline] at first
    exact line.property first
  rw [Text.withoutNewline, Text.dropEnd, ← String.toList_inj, String.toList_ofList]
  simp [ended, stays]

end Line

/-- Lines, and perhaps other lines that were saved. -/
structure LineBuffer where
  lines : List Line
  saved : Option (List Line) := none
  deriving DecidableEq

namespace LineBuffer

/-- What can be asked of the lines of a build file. -/
inductive Request
  | appendLine (line : String)
  | appendLines (lines : List String)
  | removeLine (index : Nat)
  | popLines (n : Nat)
  | lineCount
  | line (index : Nat)
  | content
  | snapshot
  | restore
  | clear
  deriving DecidableEq, Repr

/-- The answer to a request that does not fail. -/
inductive Answer
  | done
  | count (n : Nat)
  | text (text : String)
  deriving DecidableEq, Repr

/-- The text of the lines. -/
def text (b : LineBuffer) : String := Line.textOf b.lines

/-- The answer of a buffer to a request, and the buffer that the request leaves. -/
def step (location : String) (b : LineBuffer) : Request → Except Fault Answer × LineBuffer
  | .appendLine line => (.ok .done, { b with lines := b.lines ++ [Line.escaped location line] })
  | .appendLines lines =>
    (.ok .done, { b with lines := b.lines ++ lines.map (Line.escaped location) })
  | .removeLine index =>
    if index < b.lines.length then (.ok .done, { b with lines := b.lines.eraseIdx index })
    else (.error (.lineOutOfRange index b.lines.length), b)
  | .popLines n =>
    if n ≤ b.lines.length then (.ok .done, { b with lines := b.lines.rdrop n })
    else (.error (.popTooMany n b.lines.length), b)
  | .lineCount => (.ok (.count b.lines.length), b)
  | .line index =>
    match b.lines[index]? with
    | some line => (.ok (.text line.val), b)
    | none => (.error (.lineOutOfRange index b.lines.length), b)
  | .content => (.ok (.text b.text), b)
  | .snapshot => (.ok .done, { b with saved := some b.lines })
  | .restore =>
    match b.saved with
    | some lines => (.ok .done, { lines, saved := none })
    | none => (.error .noSnapshot, b)
  | .clear => (.ok .done, { b with lines := [] })

/-- When a request fails, and with which fault. -/
inductive Refuses (b : LineBuffer) : Request → Fault → Prop
  | removeLine {index : Nat} (h : b.lines.length ≤ index) :
    Refuses b (.removeLine index) (.lineOutOfRange index b.lines.length)
  | line {index : Nat} (h : b.lines.length ≤ index) :
    Refuses b (.line index) (.lineOutOfRange index b.lines.length)
  | popLines {n : Nat} (h : b.lines.length < n) :
    Refuses b (.popLines n) (.popTooMany n b.lines.length)
  | restore (h : b.saved = none) : Refuses b .restore .noSnapshot

/-- The request neither saves lines nor takes saved ones. -/
def Request.SparesSaved (r : Request) : Prop := r ≠ .snapshot ∧ r ≠ .restore

/-- Requests in a row, whose answers are collected. -/
def runAll {σ : Type} (run : Request → σ → Except Fault Answer × σ) :
    List Request → σ → List (Except Fault Answer) × σ
  | [], s => ([], s)
  | r :: rest, s =>
    let (answer, t) := run r s
    let (answers, u) := runAll run rest t
    (answer :: answers, u)

/-- Requests in a row to a buffer. -/
def steps (location : String) (requests : List Request) (b : LineBuffer) :
    List (Except Fault Answer) × LineBuffer := runAll (fun r b => b.step location r) requests b

variable {location : String} {b : LineBuffer} {r : Request} {fault : Fault}

/-- What is kept from one request to the next is kept by all in a row. -/
theorem runAll_keeps {σ τ : Type} {R : σ → τ → Prop}
    {run : Request → σ → Except Fault Answer × σ} {run' : Request → τ → Except Fault Answer × τ}
    (keeps : ∀ r s t, R s t → (run r s).1 = (run' r t).1 ∧ R (run r s).2 (run' r t).2)
    (requests : List Request) {s : σ} {t : τ} (h : R s t) :
    (runAll run requests s).1 = (runAll run' requests t).1 ∧
      R (runAll run requests s).2 (runAll run' requests t).2 := by
  induction requests generalizing s t with
  | nil => exact ⟨rfl, h⟩
  | cons r rest ih =>
    obtain ⟨answer, after⟩ := keeps r s t h
    obtain ⟨answers, left⟩ := ih after
    exact ⟨congrArg₂ List.cons answer answers, left⟩

theorem runAll_append {σ : Type} (run : Request → σ → Except Fault Answer × σ)
    (front back : List Request) (s : σ) :
    (runAll run (front ++ back) s).2 = (runAll run back (runAll run front s).2).2 := by
  induction front generalizing s with
  | nil => rfl
  | cons r rest ih => exact ih _

/-- A request to a buffer fails in the four given cases and in no other. -/
theorem step_eq_error_iff : (b.step location r).1 = .error fault ↔ b.Refuses r fault := by
  constructor
  · intro failed
    cases r with
    | removeLine index =>
      by_cases h : index < b.lines.length
      · rw [step, if_pos h] at failed
        cases failed
      · rw [step, if_neg h] at failed
        obtain rfl := Except.error.inj failed
        exact .removeLine (Nat.le_of_not_lt h)
    | popLines n =>
      by_cases h : n ≤ b.lines.length
      · rw [step, if_pos h] at failed
        cases failed
      · rw [step, if_neg h] at failed
        obtain rfl := Except.error.inj failed
        exact .popLines (Nat.lt_of_not_le h)
    | line index =>
      rw [step] at failed
      cases found : b.lines[index]? with
      | some line =>
        rw [found] at failed
        cases failed
      | none =>
        rw [found] at failed
        obtain rfl := Except.error.inj failed
        exact .line (List.getElem?_eq_none_iff.1 found)
    | restore =>
      rw [step] at failed
      cases saved : b.saved with
      | some lines =>
        rw [saved] at failed
        cases failed
      | none =>
        rw [saved] at failed
        obtain rfl := Except.error.inj failed
        exact .restore saved
    | appendLine _ | appendLines _ | lineCount | content | snapshot | clear => cases failed
  · intro refused
    cases refused with
    | removeLine h => rw [step, if_neg (Nat.not_lt.2 h)]
    | line h => rw [step, List.getElem?_eq_none_iff.2 h]
    | popLines h => rw [step, if_neg (Nat.not_le.2 h)]
    | restore h => rw [step, h]

/-- Only saving and restoring touch the slot. -/
theorem saved_step (spares : r.SparesSaved) : (b.step location r).2.saved = b.saved := by
  cases r with
  | removeLine index => by_cases h : index < b.lines.length <;> simp [step, h]
  | popLines n => by_cases h : n ≤ b.lines.length <;> simp [step, h]
  | line index => cases found : b.lines[index]? <;> simp [step, found]
  | snapshot => exact absurd rfl spares.1
  | restore => exact absurd rfl spares.2
  | appendLine _ | appendLines _ | lineCount | content | clear => rfl

theorem saved_steps {requests : List Request} (spare : ∀ r ∈ requests, r.SparesSaved) :
    (steps location requests b).2.saved = b.saved := by
  induction requests generalizing b with
  | nil => rfl
  | cons r rest ih =>
    obtain ⟨first, others⟩ := List.forall_mem_cons.1 spare
    exact (ih others).trans (saved_step first)

/-- Saved lines come back, whatever is done to the buffer in between. -/
theorem steps_restore {between : List Request} (spare : ∀ r ∈ between, r.SparesSaved) :
    (steps location (.snapshot :: between ++ [.restore]) b).2 = { b with saved := none } := by
  have kept : (steps location between { b with saved := some b.lines }).2.saved = some b.lines :=
    saved_steps spare
  have split : (steps location (.snapshot :: between ++ [.restore]) b).2
      = ((steps location between { b with saved := some b.lines }).2.step location .restore).2 :=
    runAll_append _ between [.restore] _
  rw [split, step, kept]

end LineBuffer

/-! ## Lines of a build file -/

namespace Session

open LineBuffer (Request Answer)
open Project (BuildText.lineCount BuildText.line BuildText.removeLine BuildText.popLines)

/-- The work that a request is. -/
def lineWork : Request → Work Answer
  | .appendLine line => (fun _ => .done) <$> appendLines [line]
  | .appendLines lines => (fun _ => .done) <$> appendLines lines
  | .removeLine index => (fun _ => .done) <$> removeLine index
  | .popLines n => (fun _ => .done) <$> popLines n
  | .lineCount => .count <$> lineCount
  | .line index => .text <$> line index
  | .content => .text <$> content
  | .snapshot => (fun _ => .done) <$> snapshot
  | .restore => (fun _ => .done) <$> restore
  | .clear => (fun _ => .done) <$> clear

/-- The answer of a session to a request, and the session that the request leaves. -/
def lineStep (r : Request) (s : Session) : Except Fault Answer × Session := runOn (lineWork r) s

/-- Requests in a row to a session. -/
def lineSteps (requests : List Request) (s : Session) : List (Except Fault Answer) × Session :=
  LineBuffer.runAll lineStep requests s

/-- The build file of the session has the lines of the buffer, and so has what is saved of it. -/
structure Holds (location : String) (s : Session) (b : LineBuffer) : Prop where
  location : s.location = location
  text : textOf s.tree = .ok b.text
  saved : s.saved = b.saved.map Line.textOf

namespace Holds

variable {location : String} {s : Session} {b : LineBuffer} {tree : FileNode} {lines : List Line}

theorem onTree (h : Holds location s b) (written : textOf tree = .ok (Line.textOf lines)) :
    Holds location (s.onTree tree) { b with lines } := ⟨h.location, written, h.saved⟩

/-- An edit that turns the text of the lines into that of other lines. -/
theorem edit {f : String → Except Fault String} (h : Holds location s b)
    (edited : f b.text = .ok (Line.textOf lines)) :
    ∃ t, runOn ((fun _ => Answer.done) <$> Session.edit f) s = (.ok .done, t) ∧
      Holds location t { b with lines } := by
  obtain ⟨tree, written, ran⟩ := run_edit_ok h.text edited
  exact ⟨s.onTree tree, by rw [runOn_map, ran]; rfl, h.onTree written⟩

theorem edit_refused {f : String → Except Fault String} {fault : Fault} (h : Holds location s b)
    (refused : f b.text = .error fault) :
    runOn ((fun _ => Answer.done) <$> Session.edit f) s = (.error fault, s) := by
  rw [runOn_map, run_edit_error h.text refused]
  rfl

theorem append (h : Holds location s b) (texts : List String) :
    ∃ t, runOn ((fun _ => Answer.done) <$> Session.appendLines texts) s = (.ok .done, t) ∧
      Holds location t { b with lines := b.lines ++ texts.map (Line.escaped location) } := by
  obtain ⟨tree, written, ran⟩ := run_appendLines h.text texts
  rw [h.location, LineBuffer.text, Line.append_textOf] at written
  exact ⟨s.onTree tree, by rw [runOn_map, ran]; rfl, h.onTree written⟩

theorem removeLine_text (b : LineBuffer) (index : Nat) :
    BuildText.removeLine b.text index = if index < b.lines.length
      then .ok (Line.textOf (b.lines.eraseIdx index))
      else .error (.lineOutOfRange index b.lines.length) := by
  simp only [BuildText.removeLine, LineBuffer.text, Line.physicalLines_textOf, List.length_map,
    List.eraseIdx_eq_take_drop_succ, ← List.map_take, ← List.map_drop, ← List.map_append]
  rfl

theorem popLines_text (b : LineBuffer) (n : Nat) :
    BuildText.popLines b.text n = if n ≤ b.lines.length
      then .ok (Line.textOf (b.lines.rdrop n)) else .error (.popTooMany n b.lines.length) := by
  simp only [BuildText.popLines, LineBuffer.text, Line.physicalLines_textOf, List.length_map,
    ← List.map_take]
  rfl

theorem line_text (b : LineBuffer) (index : Nat) :
    BuildText.line b.text index = match b.lines[index]? with
      | some line => .ok line.val
      | none => .error (.lineOutOfRange index b.lines.length) := by
  simp only [BuildText.line, LineBuffer.text, Line.physicalLines_textOf, List.length_map,
    List.getElem?_map]
  cases b.lines[index]? with
  | none => rfl
  | some line => exact congrArg Except.ok line.withoutNewline_ended

/-- A build file answers a request as the lines that it holds do, and then holds what is left of
them. -/
theorem step (r : Request) (s : Session) (b : LineBuffer) (h : Holds location s b) :
    (lineStep r s).1 = (b.step location r).1 ∧
      Holds location (lineStep r s).2 (b.step location r).2 := by
  have read : runOn Session.content s = (.ok b.text, s) := by rw [run_content, h.text]
  have writable := get?_ne_directory h.text
  cases r with
  | appendLine text =>
    obtain ⟨t, ran, holds⟩ := h.append [text]
    rw [lineStep, lineWork, ran]
    exact ⟨rfl, holds⟩
  | appendLines texts =>
    obtain ⟨t, ran, holds⟩ := h.append texts
    rw [lineStep, lineWork, ran]
    exact ⟨rfl, holds⟩
  | removeLine index =>
    rw [lineStep, lineWork, Session.removeLine, LineBuffer.step]
    have edited := removeLine_text b index
    by_cases inside : index < b.lines.length
    · rw [if_pos inside] at edited ⊢
      obtain ⟨t, ran, holds⟩ := h.edit (f := (BuildText.removeLine · index)) edited
      rw [ran]
      exact ⟨rfl, holds⟩
    · rw [if_neg inside] at edited ⊢
      rw [h.edit_refused edited]
      exact ⟨rfl, h⟩
  | popLines n =>
    rw [lineStep, lineWork, Session.popLines, LineBuffer.step]
    have edited := popLines_text b n
    by_cases enough : n ≤ b.lines.length
    · rw [if_pos enough] at edited ⊢
      obtain ⟨t, ran, holds⟩ := h.edit (f := (BuildText.popLines · n)) edited
      rw [ran]
      exact ⟨rfl, holds⟩
    · rw [if_neg enough] at edited ⊢
      rw [h.edit_refused edited]
      exact ⟨rfl, h⟩
  | lineCount =>
    rw [lineStep, lineWork, runOn_map, run_lineCount h.text, BuildText.lineCount,
      LineBuffer.text, Line.physicalLines_textOf, List.length_map]
    exact ⟨rfl, h⟩
  | line index =>
    rw [lineStep, lineWork, runOn_map, Session.line, runOn_bind_ok read, run_ofExcept, line_text,
      LineBuffer.step]
    cases b.lines[index]? with
    | none => exact ⟨rfl, h⟩
    | some line => exact ⟨rfl, h⟩
  | content =>
    rw [lineStep, lineWork, runOn_map, read]
    exact ⟨rfl, h⟩
  | snapshot =>
    rw [lineStep, lineWork, runOn_map, run_snapshot h.text]
    exact ⟨rfl, h.location, h.text, rfl⟩
  | restore =>
    rw [lineStep, lineWork, runOn_map, LineBuffer.step]
    cases saved : b.saved with
    | none =>
      have none_saved : s.saved = none := by rw [h.saved, saved]; rfl
      rw [run_restore_empty none_saved]
      exact ⟨rfl, h⟩
    | some lines =>
      have some_saved : s.saved = some (Line.textOf lines) := by rw [h.saved, saved]; rfl
      obtain ⟨tree, written, ran⟩ := run_restore writable some_saved
      rw [ran]
      exact ⟨rfl, h.location, written, rfl⟩
  | clear =>
    obtain ⟨tree, written, ran⟩ := run_write writable ""
    rw [lineStep, lineWork, runOn_map, Session.clear, ran]
    have cleared : Holds location (s.onTree tree) { b with lines := [] } := h.onTree written
    exact ⟨rfl, cleared⟩

theorem steps (requests : List Request) (h : Holds location s b) :
    (lineSteps requests s).1 = (LineBuffer.steps location requests b).1 ∧
      Holds location (lineSteps requests s).2 (LineBuffer.steps location requests b).2 :=
  LineBuffer.runAll_keeps step requests h

end Holds

/-- A refused request leaves the session as it was. -/
theorem lineStep_of_refused {r : Request} {s : Session} {b : LineBuffer} {location : String}
    {fault : Fault} (h : Holds location s b) (refused : b.Refuses r fault) :
    (lineStep r s).2 = s := by
  cases refused with
  | @removeLine index beyond =>
    have edited := Holds.removeLine_text b index
    rw [if_neg (Nat.not_lt.2 beyond)] at edited
    rw [lineStep, lineWork, removeLine, h.edit_refused edited]
  | line beyond =>
    have read : runOn content s = (.ok b.text, s) := by rw [run_content, h.text]
    rw [lineStep, lineWork, runOn_map, line, runOn_bind_ok read, run_ofExcept]
  | @popLines n beyond =>
    have edited := Holds.popLines_text b n
    rw [if_neg (Nat.not_le.2 beyond)] at edited
    rw [lineStep, lineWork, popLines, h.edit_refused edited]
  | restore unsaved =>
    have none_saved : s.saved = none := by rw [h.saved, unsaved]; rfl
    rw [lineStep, lineWork, runOn_map, run_restore_empty none_saved]

/-! ## From the creation on -/

/-- The tool does not write the build file when it sets a project up. -/
def SetupKeepsBuildFile (tool : Tool) : Prop :=
  ∀ call, bytesOf? (tool 0 call).project = bytesOf? call.project

/-- The lines of a new project: the one that declares it. -/
def newLines (location : String) (settings : ProjectSettings) : LineBuffer :=
  { lines := [Line.escaped location settings.projectLine] }

/-- The setup of a project without fixtures writes the line that declares it and runs the tool. -/
theorem run_setup_plain (tool : Tool) (files : String → Except FileFault FileNode) {s : Session}
    (fresh : s.tree = .directory []) (plain : s.settings.fixtures = none) :
    ∃ tree, textOf tree = .ok (BuildText.append s.location "" [s.settings.projectLine]) ∧
      runOn (setup tool files) s
        = runOn (configure tool s.settings s.location) (s.onTree tree) := by
  have absent : ∀ entries, s.tree.get? [buildFile] ≠ some (.directory entries) := by
    intro entries h
    rw [fresh] at h
    cases h
  obtain ⟨blank, hblank, written⟩ := run_write absent ""
  obtain ⟨tree, htree, appended⟩ := run_appendLines (s := s.onTree blank) hblank
    [s.settings.projectLine]
  refine ⟨tree, htree, ?_⟩
  rw [setup, runOn_bind_ok (runOn_get _), runOn_bind_ok written, runOn_bind_ok appended]
  simp only [plain]
  rfl

/-- If the tool finds nothing wrong with the project, the session is the one behind its run. -/
theorem eq_answered_of_configure {tool : Tool} {settings : ProjectSettings} {location : String}
    {s t : Session} (configured : runOn (configure tool settings location) s = (.ok (), t)) :
    let call : Tool.Call := ⟨settings.setupArgs, location, s.tree, s.outside⟩
    t = s.answered call (tool s.calls.size call) := by
  intro call
  have invoked : runOn (invoke tool settings.setupArgs location) s
      = (.ok (tool s.calls.size call).result, s.answered call (tool s.calls.size call)) := rfl
  rw [configure, runOn_bind_ok invoked] at configured
  cases result : (tool s.calls.size call).result with
  | error failure =>
    rw [result] at configured
    cases configured
  | ok output =>
    rw [result] at configured
    cases success : output.success with
    | true =>
      simp only [success] at configured
      exact (Prod.ext_iff.1 configured).2.symm
    | false =>
      simp only [success] at configured
      cases configured

/-- The setup of a project without fixtures leaves the one line that declares it. -/
theorem holds_setup {tool : Tool} {files : String → Except FileFault FileNode} {s t : Session}
    (keeps : SetupKeepsBuildFile tool) (fresh : s.tree = .directory []) (uncalled : s.calls = #[])
    (unsaved : s.saved = none) (plain : s.settings.fixtures = none)
    (ran : runOn (setup tool files) s = (.ok (), t)) :
    Holds s.location t (newLines s.location s.settings) := by
  obtain ⟨tree, declared, written⟩ := run_setup_plain tool files fresh plain
  have session := eq_answered_of_configure (written.symm.trans ran)
  simp only [calls_onTree, uncalled] at session
  have kept : textOf t.tree = .ok (BuildText.append s.location "" [s.settings.projectLine]) := by
    rw [session, textOf_eq_ok_iff]
    exact (keeps _).trans (textOf_eq_ok_iff.1 declared)
  have declares := Line.append_textOf s.location [] [s.settings.projectLine]
  refine ⟨?_, kept.trans (congrArg Except.ok declares), ?_⟩
  · rw [session]
    rfl
  · rw [session]
    exact unsaved

/-- A new project without fixtures has the one line that declares it, and nothing is saved. -/
theorem holds_create {tool : Tool} {files : String → Except FileFault FileNode}
    {location : String} {settings : ProjectSettings} {outside : FileNode} {s : Session}
    (keeps : SetupKeepsBuildFile tool)
    (created : create tool files location settings outside = (.ok (), s))
    (plain : settings.fixtures = none) : Holds location s (newLines location settings) :=
  holds_setup (s := { empty location settings with outside }) keeps rfl rfl rfl plain created

/-- **A build file is a list of lines.** Take a new project without fixtures and any requests in a
row. They are answered as those to a buffer with the one line that declares the project, and leave
the text of the lines and the saved lines that they leave there. In the state that is reached, a
request fails exactly in the four cases of `LineBuffer.Refuses`, and then leaves the session as it
is; and what is saved comes back, whatever is asked in between. -/
theorem requests_refine_lines {tool : Tool} {files : String → Except FileFault FileNode}
    {location : String} {settings : ProjectSettings} {outside : FileNode} {s : Session}
    (keeps : SetupKeepsBuildFile tool)
    (created : create tool files location settings outside = (.ok (), s))
    (plain : settings.fixtures = none) (requests : List Request) :
    let t := (lineSteps requests s).2
    let b := (LineBuffer.steps location requests (newLines location settings)).2
    (lineSteps requests s).1 = (LineBuffer.steps location requests (newLines location settings)).1 ∧
    textOf t.tree = .ok b.text ∧ t.saved = b.saved.map Line.textOf ∧
    (∀ r fault, ((lineStep r t).1 = .error fault ↔ b.Refuses r fault) ∧
      ((lineStep r t).1 = .error fault → (lineStep r t).2 = t)) ∧
    ∀ between : List Request, (∀ r ∈ between, r.SparesSaved) →
      let u := (lineSteps (.snapshot :: between ++ [.restore]) t).2
      textOf u.tree = textOf t.tree ∧ u.saved = none := by
  intro t b
  obtain ⟨answers, holds⟩ := (holds_create keeps created plain).steps requests
  have refused (r : Request) (fault : Fault) :
      (lineStep r t).1 = .error fault ↔ b.Refuses r fault := by
    rw [(Holds.step r t b holds).1, LineBuffer.step_eq_error_iff]
  refine ⟨answers, holds.text, holds.saved, fun r fault => ⟨refused r fault, fun failed => ?_⟩,
    fun between spare => ?_⟩
  · exact lineStep_of_refused holds ((refused r fault).1 failed)
  · obtain ⟨-, restored⟩ := holds.steps (.snapshot :: between ++ [.restore])
    rw [LineBuffer.steps_restore spare] at restored
    exact ⟨restored.text.trans holds.text.symm, restored.saved⟩

/-- Newlines, markers and carriage returns in the lines of a plain project. -/
theorem plain_requests_refine_lines :
    SetupKeepsBuildFile quietTool ∧
      create quietTool (fun _ => .error .missing) "/p" {} = (.ok (), plainProject) ∧
      ({} : ProjectSettings).fixtures = none ∧
      (lineSteps [.appendLines ["a\nb", "$BUILDFILE_DIR$\r"], .snapshot, .popLines 4, .clear,
          .removeLine 0, .restore, .line 2, .line 3, .restore] plainProject).1
        = [.ok .done, .ok .done, .error (.popTooMany 4 3), .ok .done,
          .error (.lineOutOfRange 0 0), .ok .done, .ok (.text "'/p'\r"),
          .error (.lineOutOfRange 3 3), .error .noSnapshot] := by
  have keeps : SetupKeepsBuildFile quietTool := fun _ => rfl
  have created : create quietTool (fun _ => .error .missing) "/p" {} = (.ok (), plainProject) := rfl
  refine ⟨keeps, created, rfl, ?_⟩
  rw [(requests_refine_lines keeps created rfl _).1]
  decide

end Session

end SignatureAudit
