import SignatureAudit.Emulation.Utility.Place

/-!
# Names of paths

The programs that show parts of paths, and where paths lead.
-/

namespace SignatureAudit.Emulation.Utility

open Shell (Running Machine Utility)
open Shell.Running (print printLine)

/-- The last name of a path as it is shown, without an ending. -/
def baseName (ending path : String) : String :=
  let names := (path.splitOn "/").filter (· ≠ "")
  match names.getLast? with
  | none => if path = "" then "" else "/"
  | some name =>
    if ending ≠ "" && name ≠ ending && ending.toList.isSuffixOf name.toList then
      String.ofList (name.toList.take (name.length - ending.length))
    else name

/-- Shows the last names of paths. -/
def basename : Utility := fun _ =>
  withStyle { inFront := true }
    [letter 'a' ["multiple"], taking 's' ["suffix"], letter 'z' ["zero"]]
    fun g => do
      let many := g.has "a" || g.has "s"
      match g.operands with
      | [] => misuse "missing operand"
      | [path] => do
        printLine (baseName ((g.last? "s").getD "") path)
        pure 0
      | path :: second :: rest =>
        if many then
          for path in path :: second :: rest do
            printLine (baseName ((g.last? "s").getD "") path)
          pure 0
        else
          match rest with
          | [] => do
            printLine (baseName second path)
            pure 0
          | extra :: _ => misuse ("extra operand " ++ quoted extra)

/-- The directory of a path as it is shown. -/
def directoryName (path : String) : String :=
  let strip (cs : List Char) : List Char := cs.dropWhile (· == '/')
  let cs := strip path.toList.reverse
  match cs.dropWhile (· ≠ '/') with
  | [] => if path.toList.head? == some '/' && cs.isEmpty then "/" else "."
  | rest =>
    let kept := strip rest
    if kept.isEmpty then "/" else String.ofList kept.reverse

/-- Shows the directories of paths. -/
def dirname : Utility := fun _ =>
  withOptions [letter 'z' ["zero"]] fun g => do
    if g.operands.isEmpty then misuse "missing operand"
    else
      for path in g.operands do printLine (directoryName path)
      pure 0

/-- Shows the directory. -/
def pwd : Utility := fun _ _ => do
  printLine (Machine.pathText (← Shell.Running.shell).directory)
  pure 0

/-- The place that a path leads to even if its last name is missing. -/
def canonical (text : String) : Running (Except FileFault (List String)) := goalPlace text

/-- Shows the places that paths lead to. -/
def realpath : Utility := fun _ =>
  withOptions [letter 'e' ["canonicalize-existing"], letter 'm' ["canonicalize-missing"],
    letter 's' ["strip", "no-symlinks"], letter 'q' ["quiet"]] fun g => do
      if g.operands.isEmpty then misuse "missing operand"
      else forAll g.operands fun text => do
        let m ← get
        let place ← if g.has "e" then pure (m.place text) else canonical text
        match place with
        | .ok place => do
          printLine (Machine.pathText place)
          pure true
        | .error fault => refused (shown text ++ ": " ++ fault.reason)

/-- Shows where links lead; there are no links. -/
def readlink : Utility := fun _ =>
  withOptions [letter 'f' ["canonicalize"], letter 'e' ["canonicalize-existing"],
    letter 'm' ["canonicalize-missing"], letter 'n' ["no-newline"]] fun g => do
      if g.operands.isEmpty then misuse "missing operand"
      else if !(g.has "f" || g.has "e" || g.has "m") then pure 1
      else forAll g.operands fun text => do
        let m ← get
        let place ← if g.has "e" then pure (m.place text) else canonical text
        match place with
        | .ok place => do
          printLine (Machine.pathText place)
          pure true
        | .error _ => pure false

end SignatureAudit.Emulation.Utility
