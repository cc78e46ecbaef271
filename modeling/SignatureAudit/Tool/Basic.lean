import SignatureAudit.Duration
import SignatureAudit.FileTree.Host

/-!
# The build tool

The build tool is known only by how it answers: it is run with arguments in a directory, sees the
project as it is, and either ends with output or fails to run to its end. A tool is a function of
the number of earlier runs and of what it sees, so each run may be answered differently.
-/

namespace SignatureAudit

namespace Tool

/-- What a run that ended left. -/
structure Output where
  /-- The exit status; none if a signal ended the run. -/
  status : Option Int := some 0
  stdout : String := ""
  stderr : String := ""
  deriving DecidableEq, Repr

/-- Whether the run ended well. -/
def Output.success (o : Output) : Bool := o.status == some 0

/-- Why a run did not end. -/
inductive Failure
  /-- The program could not be started. -/
  | launch (program reason : String)
  /-- The run was given up after this time. -/
  | timeout (limit : Duration)
  | io (reason : String)
  deriving DecidableEq, Repr

/-- The wording of a failure. -/
def Failure.message : Failure → String
  | .launch program reason => "Failed to launch '" ++ program ++ "': " ++ reason
  | .timeout limit => "Build tool timed out after " ++ limit.text
  | .io reason => "IO error: " ++ reason

/-- One run of the tool: what it is given and the project as it is then. -/
structure Call where
  args : List String
  directory : String
  project : FileNode
  /-- All other files of the machine. -/
  outside : FileNode := .host

/-- How a run is answered. -/
structure Reply where
  result : Except Failure Output
  /-- The project as the run leaves it. -/
  project : FileNode
  /-- The other files of the machine as the run leaves them, if it changes any. -/
  outside? : Option FileNode := none
  /-- Whether the user asked to stop while the tool was running. -/
  interrupts : Bool := false

end Tool

/-- A tool answers each run, given the number of runs before it. -/
abbrev Tool := (number : Nat) → Tool.Call → Tool.Reply

end SignatureAudit
