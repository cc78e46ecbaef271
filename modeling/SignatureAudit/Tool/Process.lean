import SignatureAudit.Emulation.Utility.Table
import SignatureAudit.FileTree.Path
import SignatureAudit.Tool.Basic

/-!
# Programs as build tools

A build tool is a program that is started in a directory of a machine on which the project is. What
it prints is put in the order of time, together with what programs print that it does not wait for;
the run is not over before they have ended.

`Emulation` holds the programs that scripts are made of: a shell and the utilities that it starts.
They are no part of the audit. Nothing but this module leads from them to the rest, and the rest is
about every function that answers as a `Tool` does; `ofProgram` is one of these.
-/

namespace SignatureAudit

namespace Emulation

open Shell (Machine Running Halt Engine)
open Tool (Failure Output)

/-- The reason why a program cannot be started with a text that no argument can be. -/
def notPassable : String := "nul byte found in provided data"

/-- What a machine has printed on one of its two outputs. -/
def printedText (m : Machine) (error : Bool) : String :=
  let chunks := (m.printed.toList.filter (·.error == error)).mergeSort fun a b => a.time ≤ b.time
  cooked (String.join (chunks.map (·.text)))

/-- When everything that prints has ended. -/
def endOf (m : Machine) : Nat :=
  (m.jobs.filter (·.prints)).foldl (fun time job => max time job.ends) m.elapsed

/-- Why a run that has gone on for too long did not end. -/
def endless (m : Machine) : Failure :=
  match m.limit with
  | some limit => .timeout limit
  | none => .io "the program does not end"

/-- What is left of a machine on which a program ran. -/
def resultOf (program : String) (m : Machine) :
    Except Halt (Except FileFault Nat) → Except Failure Output
  | .ok (.error fault) => .error (.launch program fault.message)
  | .error .late => .error (endless m)
  | ended =>
    let status? := match ended with
      | .ok (.ok status) => some (Int.ofNat status)
      | _ => none
    if m.limit.any fun limit => limit.nanoseconds ≤ endOf m then .error (endless m)
    else .ok ⟨status?, printedText m false, printedText m true⟩

/-- How many programs can run inside each other. -/
def depth : Nat := 2500

/-- The machine on which a program is started in a directory. -/
def machineFor (environment : List (String × String)) (limit : Option Duration)
    (files : FileNode) (directory : List String) : Machine :=
  { shell := {
      name := ""
      bindings := environment.map fun (name, value) =>
        (raw name, { value? := some (raw value), exported := true })
      directory }
    files
    limit }

/-- Starts a program. A run has no time to do anything if its limit is zero. -/
def start (program : String) (args : List String) : Running (Except FileFault Nat) := do
  Running.pass 0
  let e := Engine.ofTools Utility.tools depth
  Shell.startCalled Utility.tools e.inner e.starting { replaces := true, takesText := false }
    ((program :: args).map raw)

end Emulation

namespace Tool

/-- The names and values that programs find in their environment if nobody says otherwise. -/
def usualEnvironment : List (String × String) :=
  [("HOME", "/root"),
   ("PATH", "/usr/local/sbin:/usr/local/bin:/usr/sbin:/usr/bin:/sbin:/bin")]

/-- The build tool that a program is, for a project at the given place. -/
def ofProgram (environment : List (String × String)) (location program : String)
    (limit : Option Duration) : Tool := fun _ call =>
  let failed (reason : String) : Reply :=
    { result := .error (.launch program reason), project := call.project }
  let place := FileNode.components location
  let files := FileNode.deposit call.project place call.outside
  if (program :: call.args).any (·.toList.contains '\x00') then failed Emulation.notPassable
  else
    match FilePath.ofText call.directory >>= fun path => path.find files [] with
    | .error fault => failed fault.message
    | .ok directory =>
      if !(files.get? directory).any FileNode.isDirectory then
        failed FileFault.notDirectory.message
      else
        let (ended, m) := (Emulation.start program call.args).run.run
          (Emulation.machineFor environment limit files directory)
        { result := Emulation.resultOf program m ended
          project := (m.files.get? place).getD (.directory [])
          outside? := some (m.files.erase place) }

end Tool

end SignatureAudit
