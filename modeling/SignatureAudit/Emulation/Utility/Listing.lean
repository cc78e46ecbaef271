import SignatureAudit.Emulation.Shell.Pattern
import SignatureAudit.Emulation.Utility.Place

/-!
# Listing directories

The program that lists what stands in directories, in ascending order of the names.
-/

namespace SignatureAudit.Emulation.Utility

open Shell (Running Machine Utility)
open Shell.Running (print printLine)

/-- How a name is listed. -/
def listedName (g : Given) (name : String) : Option FileNode → String
  | some (.directory _) => if g.has "p" || g.has "F" then name ++ "/" else name
  | some (.file _ true) => if g.has "F" then name ++ "*" else name
  | _ => name

/-- The names in a directory that are listed. -/
def listedNames (g : Given) (entries : List (String × FileNode)) : List (String × FileNode) :=
  let named := (entries.map fun (name, node) => (raw name, node)).mergeSort fun a b =>
    decide (a.1 ≤ b.1)
  let dots : List (String × FileNode) := [(".", .directory []), ("..", .directory [])]
  let all := if g.has "a" then dots ++ named else named
  let kept := all.filter fun (name, _) =>
    (g.has "a" || g.has "A" || name.toList.head? != some '.')
      && !(g.has "B" && name.toList.getLast? == some '~')
      && !(g.all "I").any fun text =>
        (Shell.Pattern.read (text.toList.map (·, false))).fits name.toList
  if g.has "r" then kept.reverse else kept

mutual

/-- The lines that list a directory, and with an option also those below it. -/
def listingOf (g : Given) (header : Bool) (path : String) : FileNode → List String
  | .file .. => []
  | .directory entries =>
    let lines := (listedNames g entries).map fun (name, node) => listedName g name (some node)
    let below := if g.has "R" then listingsBelow g path entries else []
    let order := (listedNames g entries).map (·.1)
    (if header then [path ++ ":"] else []) ++ lines
      ++ order.flatMap fun name => (below.lookup name).getD []

/-- The lines that list the directories in a directory, by their names. -/
def listingsBelow (g : Given) (path : String) : List (String × FileNode) →
    List (String × List String)
  | [] => []
  | (name, node) :: rest =>
    let lines := match node with
      | .file .. => []
      | .directory entries => "" :: listingOf g true (below path (raw name)) (.directory entries)
    (raw name, lines) :: listingsBelow g path rest

end

/-- Lists directories and files. -/
def ls : Utility := fun _ =>
  withStyle { misused := 2 }
    ([letter 'a' ["all"], letter 'A' ["almost-all"], letter '1', letter 'R' ["recursive"],
      letter 'd' ["directory"], letter 'r' ["reverse"], letter 'p', letter 'F' ["classify"],
      letter 'B' ["ignore-backups"], taking 'I' ["ignore"], letter 'C', letter 'x', letter 'l',
      letter 't', letter 'S', letter 'U', letter 'h' ["human-readable"], letter 'i' ["inode"],
      letter 's' ["size"], letter 'k', letter 'L', letter 'H', letter 'n', letter 'g', letter 'o',
      letter 'q', letter 'b', letter 'N', letter 'c', letter 'u', letter 'X', letter 'v',
      { name := "color", words := ["color"], arity := .optional }])
    (fun g => do
      let m ← get
      let operands := if g.operands.isEmpty then ["."] else g.operands
      let missing := operands.filter fun path => (m.node? path).isNone
      for path in missing do
        match m.node path with
        | .error fault => warn ("cannot access " ++ quoted path ++ ": " ++ fault.reason)
        | .ok _ => pure ()
      let order (paths : List String) : List String :=
        let sorted := paths.mergeSort
        if g.has "r" then sorted.reverse else sorted
      let isDirectory (path : String) : Bool :=
        !g.has "d" && (m.node? path).any FileNode.isDirectory
      let present := operands.filter fun path => (m.node? path).isSome
      let files := order (present.filter (!isDirectory ·))
      let directories := order (present.filter isDirectory)
      let headers := g.has "R" || 1 < operands.length
      let first := files.map fun path => listedName g path (m.node? path)
      let blocks := directories.filterMap fun path =>
        (m.node? path).map (listingOf g headers path)
      let blocks := if first.isEmpty then blocks else first :: blocks
      printLines ((blocks.intersperse [""]).flatten)
      pure (if missing.isEmpty then 0 else 2))

end SignatureAudit.Emulation.Utility
