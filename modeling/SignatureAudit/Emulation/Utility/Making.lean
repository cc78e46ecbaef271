import SignatureAudit.Emulation.Text.Magnitude
import SignatureAudit.Emulation.Utility.Place

/-!
# Making files and directories

The programs that make directories, files, and files with new names.
-/

namespace SignatureAudit.Emulation.Utility

open Shell (Running Machine Utility)
open Shell.Running (print printLine)

/-- Why a directory cannot be made: the path that is in the way, if it is another, and the fault. -/
abbrev Obstacle := Option String × FileFault

/-- Makes the directories on a path where they are missing; answers those that were made. -/
def makeAll : List FilePath → Running (List FilePath × Except Obstacle Unit)
  | [] => pure ([], .ok ())
  | path :: rest => do
    match ← change path.makeDirectory with
    | .ok () => do
      let (made, result) ← makeAll rest
      pure (path :: made, result)
    | .error fault => do
      let m ← get
      if path.isDirectory m.files m.shell.directory then makeAll rest
      else if rest.isEmpty then pure ([], .error (none, fault))
      else
        let fault := if fault = .present then .notDirectory else fault
        pure ([], .error (some (pathText path), fault))

/-- Makes a directory and perhaps those above it. -/
def makeDirectory (parents shows : Bool) (text : String) : Running Bool := do
  let made ← match pathOf text with
    | .error fault => pure ([], .error (none, fault))
    | .ok path =>
      if parents then makeAll (onTheWay path)
      else do
        match ← change path.makeDirectory with
        | .ok () => pure ([path], .ok ())
        | .error fault => pure ([], .error (none, fault))
  if shows then
    for path in made.1 do
      printLine ("mkdir: created directory " ++ quoted (pathText path))
  match made.2 with
  | .ok () => pure true
  | .error (path?, fault) =>
    refused ("cannot create directory " ++ quoted (path?.getD text) ++ ": " ++ fault.reason)

/-- Makes directories. -/
def mkdir : Utility := fun _ =>
  withOptions [letter 'p' ["parents"], letter 'v' ["verbose"], taking 'm' ["mode"]] fun g => do
    if g.operands.isEmpty then misuse "missing operand"
    else forAll g.operands (makeDirectory (g.has "p") (g.has "v"))

/-- Makes files where there are none. -/
def touch : Utility := fun _ =>
  withOptions [letter 'c' ["no-create"], letter 'a', letter 'm', taking 'd' ["date"],
    taking 't', taking 'r' ["reference"], letter 'f', letter 'h'] fun g => do
      if g.operands.isEmpty then misuse "missing file operand"
      else forAll g.operands fun text => do
        let m ← get
        match m.node text with
        | .ok _ => pure true
        | .error _ =>
          if g.has "c" then pure true
          else
            match m.writable text with
            | .ok place => do
              set (m.fill place .empty)
              pure true
            | .error .isDirectory =>
              refused ("setting times of " ++ quoted text ++ ": " ++ FileFault.missing.reason)
            | .error fault =>
              refused ("cannot touch " ++ quoted text ++ ": " ++ fault.reason)

/-- Makes a file or a directory with a new name. -/
def mktemp : Utility := fun _ =>
  withOptions [letter 'd' ["directory"], letter 'u' ["dry-run"], letter 't', taking 'p', letter 'q']
    fun g => do
      let m ← get
      let template := g.operands.head?.getD "tmp.XXXXXXXXXX"
      let stem := String.ofList (template.toList.reverse.dropWhile (· == 'X')).reverse
      let marks := template.length - stem.length
      let digits := Magnitude.padded marks (toString m.processes)
      let directory := (g.last? "p").getD "/tmp"
      let path := if g.operands.isEmpty || g.has "t" || g.has "p"
        then below directory (stem ++ digits) else stem ++ digits
      if marks < 3 then fail ("too few X's in template " ++ quoted template)
      else
        match ← goalPlace path with
        | .error fault =>
          fail ("failed to create file via template " ++ quoted template ++ ": " ++ fault.reason)
        | .ok place =>
          modify fun m => { m with processes := m.processes + 1 }
          if !g.has "u" then
            putAt place (if g.has "d" then .directory [] else .file .empty false)
          printLine path
          pure 0

end SignatureAudit.Emulation.Utility
