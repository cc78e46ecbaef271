import SignatureAudit.Emulation.Utility.Place

/-!
# Removing files and directories

The programs that remove empty directories, files, and directories with all that is in them.
-/

namespace SignatureAudit.Emulation.Utility

open Shell (Running Machine Utility)
open Shell.Running (print printLine)

/-- Removes an empty directory. -/
def removeDirectory (shows lenient : Bool) (text : String) : Running Bool := do
  if shows then printLine ("rmdir: removing directory, " ++ quoted text)
  let told (fault : FileFault) : Running Bool :=
    refused ("failed to remove " ++ quoted text ++ ": " ++ fault.reason)
  match ← entryOf text with
  | .error fault => told fault
  | .ok place =>
    match (← get).files.get? place with
    | some (.directory []) => do
      eraseAt place
      pure true
    | some (.directory _) => if lenient then pure true else told .notEmpty
    | _ => told .notDirectory

/-- A path and those above it that it names. -/
def withParents (text : String) : List String :=
  match pathOf text with
  | .ok path =>
    text :: ((onTheWay path).map pathText).reverse.drop 1
  | .error _ => [text]

/-- Removes directories as long as they are empty. -/
def removeUpwards (shows lenient : Bool) : List String → Running Bool
  | [] => pure true
  | text :: rest => do
    if ← removeDirectory shows lenient text then removeUpwards shows lenient rest else pure false

/-- Removes empty directories. -/
def rmdir : Utility := fun _ =>
  withOptions [letter 'p' ["parents"], letter 'v' ["verbose"],
    { name := "lenient", words := ["ignore-fail-on-non-empty"] }] fun g => do
      if g.operands.isEmpty then misuse "missing operand"
      else forAll g.operands fun text =>
        removeUpwards (g.has "v") (g.has "lenient") (if g.has "p" then withParents text else [text])

mutual

/-- What is told about the removal of a node and all below it. -/
def removals (path : String) : FileNode → List String
  | .file .. => ["removed " ++ quoted path]
  | .directory entries => removalsBelow path entries ++ ["removed directory " ++ quoted path]

/-- What is told about the removal of the entries of a directory. -/
def removalsBelow (path : String) : List (String × FileNode) → List String
  | [] => []
  | (name, node) :: rest => removals (below path (raw name)) node ++ removalsBelow path rest

end

/-- Removes a file, or a directory if this is asked for. -/
def remove (g : Given) (text : String) : Running Bool := do
  let recursive := g.has "r"
  let last := lastName text
  let told (fault : FileFault) : Running Bool :=
    refused ("cannot remove " ++ quoted text ++ ": " ++ fault.reason)
  let dots := (text.splitOn "/").filter (· ≠ "")
  if recursive && (dots.getLast? = some "." || dots.getLast? = some "..") then
    refused ("refusing to remove '.' or '..' directory: skipping " ++ quoted text)
  else if recursive && last = "/" then
    warn "it is dangerous to operate recursively on '/'"
    refused "use --no-preserve-root to override this failsafe"
  else
    let m ← get
    match m.place text with
    | .error .missing => if g.has "f" then pure true else told .missing
    | .error .notDirectory => if g.has "f" then pure true else told .notDirectory
    | .error fault => told fault
    | .ok place =>
      let node := (m.files.get? place).getD default
      let allowed := match node with
        | .file .. => true
        | .directory entries => recursive || (g.has "d" && entries.isEmpty)
      if !allowed then
        told (if g.has "d" then .notEmpty else .isDirectory)
      else
        eraseAt place
        if g.has "v" then
          for line in removals text node do printLine line
        pure true

/-- Removes files and directories. -/
def rm : Utility := fun _ =>
  withOptions [{ name := "r", letters := ['r', 'R'], words := ["recursive"] }, letter 'f' ["force"],
    letter 'd' ["dir"], letter 'v' ["verbose"], letter 'i', letter 'I'] fun g => do
      if g.operands.isEmpty then if g.has "f" then pure 0 else misuse "missing operand"
      else forAll g.operands (remove g)

end SignatureAudit.Emulation.Utility
