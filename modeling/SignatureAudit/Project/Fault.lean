import SignatureAudit.FileTree.Fault
import SignatureAudit.Tool.Basic

/-!
# Faults of the build file

What can go wrong with the build file of a project and with the runs of the build tool on it.
-/

namespace SignatureAudit.Project

/-- Why an operation on the project failed. -/
inductive Fault
  /-- The tool could not set the project up; what it printed is kept. -/
  | configuration (message stdout : String)
  | tool (failure : Tool.Failure)
  | lineOutOfRange (index length : Nat)
  | popTooMany (requested available : Nat)
  | noSnapshot
  /-- A file cannot be read, written or copied. -/
  | file (fault : FileFault)
  /-- The build file is not valid text. -/
  | notText
  deriving DecidableEq, Repr

/-- The wording of a fault. -/
def Fault.message : Fault → String
  | .configuration message _ => "Could not configure project: " ++ message
  | .tool failure => failure.message
  | .lineOutOfRange index length =>
    "Line index " ++ toString index ++ " out of range (file has " ++ toString length ++ " lines)"
  | .popTooMany requested available =>
    "Can only pop " ++ toString available ++ " lines (not " ++ toString requested ++ ")"
  | .noSnapshot => "No snapshot to restore"
  | .file fault => "IO error: " ++ fault.message
  | .notText => "IO error: stream did not contain valid UTF-8"

end SignatureAudit.Project
