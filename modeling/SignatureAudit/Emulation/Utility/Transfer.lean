import SignatureAudit.Emulation.Utility.Place

/-!
# Copying and moving

The programs that copy and move files and directories. A directory is only replaced or filled, never
mixed up with a file.
-/

namespace SignatureAudit.Emulation.Utility

open Shell (Running Machine Utility)
open Shell.Running (print printLine)

/-- The sources and the target of a copy: the target and whether it is a directory to fill. -/
structure Transfer where
  sources : List String
  target : String
  fills : Bool

/-- The sources and the target that operands name, or the outcome if they name none. -/
def transferOf (g : Given) : Running (Except Nat Transfer) := do
  let m ← get
  let isDirectory (path : String) : Bool := (m.node? path).any FileNode.isDirectory
  match g.last? "t", g.operands with
  | some target, sources =>
    if sources.isEmpty then do return .error (← misuse "missing file operand")
    else pure (.ok ⟨sources, target, true⟩)
  | none, [] => do return .error (← misuse "missing file operand")
  | none, [source] => do
    return .error (← misuse ("missing destination file operand after " ++ quoted source))
  | none, operands =>
    let target := operands.getLast?.getD ""
    let sources := operands.dropLast
    if isDirectory target && !g.has "T" then pure (.ok ⟨sources, target, true⟩)
    else if sources.length = 1 then pure (.ok ⟨sources, target, false⟩)
    else if g.has "T" then do return .error (← misuse ("extra operand " ++ quoted target))
    else
      let reason := match m.node target with
        | .error fault => fault
        | .ok _ => .notDirectory
      do return .error (← fail ("target " ++ quoted target ++ ": " ++ reason.reason))

/-- Where a source goes. -/
def Transfer.goal (t : Transfer) (source : String) : String :=
  if t.fills then below t.target (lastName source) else t.target

/-- Whether one place is inside another, or the same. -/
def isInside (outer inner : List String) : Bool := outer.isPrefixOf inner

/-- Copies a source to a goal. -/
def copy (g : Given) (source goal : String) : Running Bool := do
  let m ← get
  match m.place source with
  | .error fault => refused ("cannot stat " ++ quoted source ++ ": " ++ fault.reason)
  | .ok sourcePlace =>
    let node := (m.files.get? sourcePlace).getD default
    let recursive := g.has "r"
    let directory := node.isDirectory
    if directory && !recursive then
      refused ("-r not specified; omitting directory " ++ quoted source)
    else
      match ← goalPlace goal with
      | .error fault =>
        refused ("cannot create " ++ (if directory then "directory " else "regular file ")
          ++ quoted goal ++ ": " ++ fault.reason)
      | .ok place =>
        let old? := m.files.get? place
        if old?.isSome && place = sourcePlace then
          refused (quoted source ++ " and " ++ quoted goal ++ " are the same file")
        else if directory && isInside sourcePlace place then
          refused ("cannot copy a directory, " ++ quoted source ++ ", into itself, " ++ quoted goal)
        else if old?.isSome && g.has "n" then pure true
        else
          match node, old? with
          | .file .., some (.directory _) =>
            refused ("cannot overwrite directory " ++ quoted goal ++ " with non-directory")
          | .directory _, some (.file ..) =>
            refused ("cannot overwrite non-directory " ++ quoted goal ++ " with directory "
              ++ quoted source)
          | .file bytes _, some (.file _ runnable) => do
            putAt place (.file bytes runnable)
            if g.has "v" then printLine (quoted source ++ " -> " ++ quoted goal)
            pure true
          | node, old? => do
            if !directory && old?.isNone && goal.toList.getLast? == some '/' then
              refused ("cannot create regular file " ++ quoted goal ++ ": Not a directory")
            else
              putAt place (FileNode.overlay node old?).1
              if g.has "v" then printLine (quoted source ++ " -> " ++ quoted goal)
              pure true

/-- Copies files and directories. -/
def cp : Utility := fun _ =>
  withOptions
    ([{ name := "r", letters := ['r', 'R', 'a'], words := ["recursive", "archive"] },
      letter 'f' ["force"], letter 'p', letter 'n' ["no-clobber"], letter 'v' ["verbose"],
      letter 'T' ["no-target-directory"], taking 't' ["target-directory"], letter 'u', letter 'i',
      letter 'L', letter 'P', letter 'd', letter 'H', letter 'l', letter 's', letter 'x',
      { name := "preserve", words := ["preserve"], arity := .optional }])
    (fun g => do
      match ← transferOf g with
      | .error status => pure status
      | .ok t => forAll t.sources fun source => copy g source (t.goal source))

/-- Moves a source to a goal. -/
def move (g : Given) (source goal : String) : Running Bool := do
  let m ← get
  match m.place source with
  | .error fault => refused ("cannot stat " ++ quoted source ++ ": " ++ fault.reason)
  | .ok sourcePlace =>
    let node := (m.files.get? sourcePlace).getD default
    let cannot (reason : String) : Running Bool :=
      refused ("cannot move " ++ quoted source ++ " to " ++ quoted goal ++ ": " ++ reason)
    match ← goalPlace goal with
    | .error fault => cannot fault.reason
    | .ok place =>
      let old? := m.files.get? place
      if old?.isSome && g.has "n" then refused ("not replacing " ++ quoted goal)
      else if node.isDirectory && isInside sourcePlace place then
        refused ("cannot move " ++ quoted source ++ " to a subdirectory of itself, " ++ quoted goal)
      else if old?.isSome && place = sourcePlace then
        refused (quoted source ++ " and " ++ quoted goal ++ " are the same file")
      else
        match node, old? with
        | .file .., some (.directory _) =>
          refused ("cannot overwrite directory " ++ quoted goal ++ " with non-directory")
        | .directory _, some (.file ..) =>
          refused ("cannot overwrite non-directory " ++ quoted goal ++ " with directory "
            ++ quoted source)
        | .directory _, some (.directory (_ :: _)) => cannot FileFault.notEmpty.reason
        | .file .., none => do
          if goal.toList.getLast? == some '/' then cannot FileFault.notDirectory.reason
          else
            eraseAt sourcePlace
            putAt place node
            if g.has "v" then printLine ("renamed " ++ quoted source ++ " -> " ++ quoted goal)
            pure true
        | node, _ => do
          eraseAt sourcePlace
          putAt place node
          if g.has "v" then printLine ("renamed " ++ quoted source ++ " -> " ++ quoted goal)
          pure true

/-- Moves files and directories. -/
def mv : Utility := fun _ =>
  withOptions [letter 'f' ["force"], letter 'n' ["no-clobber"], letter 'v' ["verbose"],
    letter 'T' ["no-target-directory"], taking 't' ["target-directory"], letter 'u', letter 'i']
    fun g => do
      match ← transferOf g with
      | .error status => pure status
      | .ok t => forAll t.sources fun source => move g source (t.goal source)

/-- Gives files further names; what stands under them is the same at first. -/
def ln : Utility := fun _ =>
  withOptions [letter 's' ["symbolic"], letter 'f' ["force"], letter 'n', letter 'v' ["verbose"],
    letter 'r', letter 'T', taking 't' ["target-directory"]] fun g => do
      let operands := match g.operands with
        | [source] => [source, "."]
        | operands => operands
      match ← transferOf { g with operands } with
      | .error status => pure status
      | .ok t => forAll t.sources fun source => do
        let goal := t.goal source
        match ← goalPlace goal with
        | .error fault =>
          refused ("failed to create link " ++ quoted goal ++ ": " ++ fault.reason)
        | .ok place =>
          let m ← get
          let kind := if g.has "s" then "symbolic link " else "hard link "
          if (m.files.get? place).isSome && !g.has "f" then
            refused ("failed to create " ++ kind ++ quoted goal ++ ": File exists")
          else
            match m.node source with
            | .ok node => do
              putAt place node
              pure true
            | .error fault =>
              if g.has "s" then pure true
              else refused ("failed to access " ++ quoted source ++ ": " ++ fault.reason)

end SignatureAudit.Emulation.Utility
