import SignatureAudit.Emulation.Utility.Basic

/-!
# Places that programs work on

How programs come from the texts of paths to places in the files of a machine, and how they change
what stands there.
-/

namespace SignatureAudit.Emulation.Utility

open Shell (Running Machine Utility)
open Shell.Running (print printLine)

/-- The path that a text writes. -/
def pathOf (text : String) : Except FileFault FilePath := FilePath.ofText (cooked text)

/-- Changes the files of the machine. -/
def change (f : FileNode → List String → Except FileFault FileNode) :
    Running (Except FileFault Unit) := do
  let m ← get
  match f m.files m.shell.directory with
  | .ok files => do
    set { m with files }
    pure (.ok ())
  | .error fault => pure (.error fault)

/-- Does something for each operand; the outcome shows whether all went well. -/
def forAll (operands : List String) (work : String → Running Bool) (status : Nat := 1) :
    Running Nat := do
  let mut outcome := 0
  for operand in operands do
    if !(← work operand) then outcome := status
  pure outcome

/-- Writes a message and tells that something went wrong. -/
def refused (message : String) : Running Bool := do
  warn message
  pure false

/-- The last name of a path. -/
def lastName (path : String) : String :=
  (FileNode.components path).getLast?.getD (if FileNode.isAbsolute path then "/" else ".")

/-- A path inside another. -/
def below (directory name : String) : String := FileNode.join directory name

/-- The paths that lead to a path, the shortest first. -/
def onTheWay (path : FilePath) : List FilePath :=
  (List.range path.names.length).map fun n =>
    { path with names := path.names.take (n + 1), slash := false }

/-- The text of a path. -/
def pathText (path : FilePath) : String :=
  raw ((if path.absolute then "/" else "") ++ "/".intercalate path.names)

/-- The place of a file that is written under a name, perhaps anew. -/
def goalPlace (goal : String) : Running (Except FileFault (List String)) := do
  let m ← get
  match m.place goal with
  | .ok place => pure (.ok place)
  | .error _ =>
    let place : Except FileFault (List String) := do
      match ← (← pathOf goal).split m.files m.shell.directory with
      | some (parent, name) => .ok (parent ++ [name])
      | none => .error .missing
    pure place

/-- Puts a node at a place. -/
def putAt (place : List String) (node : FileNode) : Running Unit :=
  modify fun m => { m with files := FileNode.deposit node place m.files }

/-- The place of something that is removed or moved: its last name is no dot. -/
def entryOf (text : String) : Running (Except FileFault (List String)) := do
  let m ← get
  let found : Except FileFault (List String) := do
    let path ← pathOf text
    let place ← path.find m.files m.shell.directory
    match path.names.getLast? with
    | some "." => .error .invalid
    | some ".." => .error .notEmpty
    | _ => .ok place
  pure found

/-- Removes what is at a place. -/
def eraseAt (place : List String) : Running Unit :=
  modify fun m => { m with files := FileNode.erase place m.files }

end SignatureAudit.Emulation.Utility
