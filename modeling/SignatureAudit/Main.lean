import SignatureAudit.Command.Run
import SignatureAudit.Tool.Process

/-!
# The command line

The outermost layer: it reads files and the environment, and prints what the command answers. Build
tools are shell scripts, which run on a generated project that is only kept in memory.
-/

namespace SignatureAudit

/-- Reads the file or directory at a path. Nothing is there if it cannot be read. -/
partial def readNode (path : String) : IO (Except FileFault FileNode) := do
  try
    let place ← IO.FS.realPath path
    if ← place.isDir then
      let mut entries : List (String × FileNode) := []
      for entry in ← place.readDir do
        if let .ok node ← readNode (FileNode.join path entry.fileName) then
          entries := FileNode.setEntry entry.fileName node entries
      return .ok (.directory entries)
    else
      return .ok (.file (← IO.FS.readBinFile path) true)
  catch _ => return .error .missing

/-- The values that settings can have in the environment. -/
def readEnvironment : IO (String → Option String) := do
  let tool ← IO.getEnv Settings.toolName
  let timeout ← IO.getEnv Settings.timeoutName
  return fun name =>
    if name = Settings.toolName then tool
    else if name = Settings.timeoutName then timeout
    else none

/-- The build tool that a program is. A program with an absolute path is read; all others are those
that every machine has. -/
def readTool (location program : String) (limit : Option Duration) : IO Tool := do
  let tool := Tool.ofProgram Tool.usualEnvironment location program limit
  if FileNode.isAbsolute program then
    match ← readNode program with
    | .ok node =>
      return fun number call =>
        let outside := FileNode.deposit node (FileNode.components program) call.outside
        tool number { call with outside }
    | .error _ => return tool
  else return tool

/-- The machine that the command runs on. -/
def host : IO (Command.Host IO) := do
  let location := "/generated"
  return {
    environment := ← readEnvironment
    node := readNode
    tool := readTool location
    location
    names := .ofSeed (← IO.monoNanosNow) }

/-- Runs the command with some arguments and gives its exit code. -/
def runCommandLine (args : List String) : IO UInt32 := do
  let answer ← Command.run (← host) args
  IO.print answer.printed
  match answer.ending with
  | .done => pure ()
  | .failed fault => IO.eprintln ("Error: " ++ fault.message)
  | .misused => IO.eprint (Console.printed Command.usageText)
  return answer.ending.code.toUInt32

end SignatureAudit

/-- Runs the command. -/
def main (args : List String) : IO UInt32 := SignatureAudit.runCommandLine args
