import SignatureAudit.FileTree.Host
import SignatureAudit.FileTree.Path
import SignatureAudit.Project.BuildText
import SignatureAudit.Project.Outcome
import SignatureAudit.Project.Settings

/-!
# The generated project

A session holds a project directory with its build file, one saved copy of the build file's text,
and the runs of the build tool so far. A probe adds candidate lines and the sentinel to the build
file, runs the tool and takes as many lines away again, whatever the tool did. The sentinel makes
the tool stop right behind the candidate lines.
-/

namespace SignatureAudit

/-- A generated project and what has been done with it. -/
structure Session where
  /-- Where the project is, as an absolute path. -/
  location : String
  settings : ProjectSettings
  /-- The files of the project. -/
  tree : FileNode
  /-- All other files of the machine. -/
  outside : FileNode := .host
  /-- The saved text of the build file. -/
  saved : Option String := none
  /-- Every run of the tool with what it saw. -/
  calls : Array Tool.Call := #[]
  /-- Whether the user asked to stop. -/
  interrupted : Bool := false

/-- Work on a session that can fail; what was done before the fault stays. -/
abbrev Session.Work := ExceptT Project.Fault (StateM Session)

namespace Session

open Project (Fault BuildText.append BuildText.line BuildText.lineCount BuildText.popLines
  BuildText.removeLine)

/-- The place of the project among all files of the machine. -/
def place (s : Session) : List String := FileNode.components s.location

/-- All files of the machine. -/
def machine (s : Session) : FileNode := FileNode.deposit s.tree s.place s.outside

/-- The session after all files of the machine have become these. -/
def seeing (s : Session) (machine : FileNode) : Session :=
  { s with
    tree := (machine.get? s.place).getD (.directory [])
    outside := machine.erase s.place }

/-- The path of the build file. -/
def buildFile : String := "meson.build"

/-- The line that makes the tool stop. -/
def sentinel : String :=
  "error('This error is produced to speed up checks and can be ignored ("
    ++ Diagnosis.ignoreMark ++ ")')"

/-- The text of the build file of a tree. -/
def textOf (tree : FileNode) : Except Fault String :=
  match tree.get? [buildFile] with
  | some (.file bytes _) =>
    match String.fromUTF8? bytes with
    | some text => .ok text
    | none => .error .notText
  | some (.directory _) => .error (.file .isDirectory)
  | none => .error (.file .missing)

/-- A tree with the given text in its build file. -/
def withText (tree : FileNode) (text : String) : Except Fault FileNode :=
  let put (runnable : Bool) : FileNode :=
    .directory (FileNode.setEntry buildFile (.file text.toUTF8 runnable) tree.entries)
  match tree.get? [buildFile] with
  | some (.directory _) => .error (.file .isDirectory)
  | some (.file _ runnable) => .ok (put runnable)
  | none => .ok (put false)

/-- Gives the answer of a computation that does not touch the session. -/
def ofExcept {α : Type} (x : Except Fault α) : Work α :=
  match x with
  | .ok a => pure a
  | .error fault => throw fault

/-- The text of the build file. -/
def content : Work String := do ofExcept (textOf (← get).tree)

/-- Replaces the text of the build file. -/
def write (text : String) : Work Unit := do
  let tree ← ofExcept (withText (← get).tree text)
  modify fun s => { s with tree }

/-- Rewrites the text of the build file. -/
def edit (f : String → Except Fault String) : Work Unit := do
  let text ← content
  let text ← ofExcept (f text)
  write text

/-- Adds lines at the end of the build file. -/
def appendLines (lines : List String) : Work Unit := do
  let location := (← get).location
  edit fun text => .ok (BuildText.append location text lines)

/-- Removes a line of the build file. -/
def removeLine (index : Nat) : Work Unit := edit (BuildText.removeLine · index)

/-- Removes the last lines of the build file. -/
def popLines (n : Nat) : Work Unit := edit (BuildText.popLines · n)

/-- The number of lines of the build file. -/
def lineCount : Work Nat := BuildText.lineCount <$> content

/-- A line of the build file. -/
def line (index : Nat) : Work String := do
  let text ← content
  ofExcept (BuildText.line text index)

/-- Saves the text of the build file, in the place of what was saved before. -/
def snapshot : Work Unit := do
  let text ← content
  modify fun s => { s with saved := some text }

/-- Writes the saved text back; nothing is saved afterwards. -/
def restore : Work Unit := do
  match (← get).saved with
  | none => throw .noSnapshot
  | some text =>
    modify fun s => { s with saved := none }
    write text

/-- Empties the build file. -/
def clear : Work Unit := write ""

/-- Copies a file or a directory to a path that starts in the project. -/
def addFile (name : String) (source : Except FileFault FileNode) : Work Unit := do
  match source, FilePath.ofText (FileNode.join (← get).location name) with
  | .error fault, _ | .ok _, .error fault => throw (.file fault)
  | .ok source, .ok path =>
    let s ← get
    let (machine, copied) := source.copyTo path s.machine []
    set (s.seeing machine)
    match copied with
    | .ok () => pure ()
    | .error fault => throw (.file fault)

/-- Copies the entries of a directory into the project. -/
def addFixtures (source : Except FileFault FileNode) : Work Unit := do
  match source with
  | .ok (.directory sources) =>
    let s ← get
    let (entries, complete) := FileNode.overlayEntries sources s.tree.entries
    set { s with tree := .directory entries }
    if !complete then throw (.file .isDirectory)
  | .ok (.file ..) => throw (.file .notDirectory)
  | .error fault => throw (.file fault)

/-- Runs the tool. -/
def invoke (tool : Tool) (args : List String) (directory : String) :
    Work (Except Tool.Failure Tool.Output) := do
  let s ← get
  let call : Tool.Call := { args, directory, project := s.tree, outside := s.outside }
  let reply := tool s.calls.size call
  set { s with
    tree := reply.project
    outside := reply.outside?.getD s.outside
    calls := s.calls.push call
    interrupted := s.interrupted || reply.interrupts }
  pure reply.result

/-- The directory in which probes run. -/
def buildDirectory (s : Session) : String := FileNode.join s.location s.settings.buildDirectory

/-- Probes lines: the build file has them, and the sentinel behind them, while the tool runs. -/
def probe (tool : Tool) (lines : List String) : Work Outcome := do
  let before ← lineCount
  let candidate := lines ++ [sentinel]
  appendLines candidate
  let s ← get
  let result ← invoke tool s.settings.reconfigureArgs s.buildDirectory
  popLines candidate.length
  match result with
  | .ok output =>
    let d := Diagnosis.diagnose output.stdout output.stderr s.settings.warningsAsErrors
    pure (.ofDiagnosis before d output.stdout output.stderr)
  | .error (.timeout limit) => pure (.ofDiagnosis before (.timeout limit) "" "")
  | .error failure => throw (.tool failure)

/-- The text of an exit status in a message. -/
def statusText : Option Int → String
  | some status => "Some(" ++ toString status ++ ")"
  | none => "None"

/-- Fills a new project and sets it up; `files` finds the fixtures. -/
def setup (tool : Tool) (files : String → Except FileFault FileNode) : Work Unit := do
  let s ← get
  write ""
  appendLines [s.settings.projectLine]
  match s.settings.fixtures with
  | some path => addFixtures (files path)
  | none => pure ()
  match ← invoke tool s.settings.setupArgs s.location with
  | .error failure => throw (.configuration failure.message "")
  | .ok output =>
    if !output.success then
      throw (.configuration ("setup exited with " ++ statusText output.status) output.stdout)

/-- A project directory without files. -/
def empty (location : String) (settings : ProjectSettings) : Session :=
  { location, settings, tree := .directory [] }

/-- A new project that has been set up, or the fault; the session shows what was done. -/
def create (tool : Tool) (files : String → Except FileFault FileNode) (location : String)
    (settings : ProjectSettings) (outside : FileNode := .host) : Except Fault Unit × Session :=
  (setup tool files).run.run { empty location settings with outside }

end Session

end SignatureAudit
