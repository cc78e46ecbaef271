import SignatureAudit.Emulation.Shell.Pattern
import SignatureAudit.Emulation.Utility.Place

/-!
# Finding files

The program that goes through directories and asks, for everything in them, whether a condition
holds. Conditions have effects: what is found is printed, removed, or given to another program.
-/

namespace SignatureAudit.Emulation.Utility

open Shell (Running Machine Utility Starting)
open Shell.Running (print printLine)

namespace Finding

/-- A condition on something that is found. -/
inductive Condition
  | always
  | never
  /-- The name fits a pattern. -/
  | named (pattern : String) (folds : Bool)
  /-- The whole path fits a pattern. -/
  | lies (pattern : String)
  | isDirectory
  | isFile
  | isEmpty
  | isRunnable
  | deny (inner : Condition)
  | both (first second : Condition)
  | either (first second : Condition)
  | print (ending : String)
  /-- Nothing below is gone through. -/
  | prune
  /-- Nothing more is gone through. -/
  | quit
  | remove
  /-- Runs a program, in whose arguments two braces stand for the path. -/
  | run (command : List String)
  /-- Runs a program for all paths at once, in the end. -/
  | collect (command : List String)
  deriving Inhabited

/-- How far directories are gone through. -/
structure Depth where
  least : Nat := 0
  most? : Option Nat := none
  /-- A directory comes behind what is in it. -/
  upwards : Bool := false

/-- What has been read of conditions: the words that are left, and the depth. -/
structure ReadState where
  words : List String
  depth : Depth := {}

/-- A reader of conditions. -/
abbrev Reader := StateT ReadState (Except String)

namespace Reader

/-- The next word, which stays. -/
def peek : Reader (Option String) := do return (← get).words.head?

/-- Takes a word off. -/
def skip : Reader Unit := modify fun s => { s with words := s.words.drop 1 }

/-- Takes the argument of a condition off. -/
def argument (condition : String) : Reader String := do
  match ← peek with
  | some word =>
    skip
    pure word
  | none => throw ("missing argument to \x60" ++ condition ++ "'")

/-- Takes a number off. -/
def number (condition : String) : Reader Nat := do
  let word ← argument condition
  match word.toNat? with
  | some n => pure n
  | none =>
    throw ("Expected a positive decimal integer argument to " ++ condition
      ++ ", but got \x60" ++ word
      ++ "'")

/-- Takes a command off, up to its end. -/
def command (condition : String) : Reader Condition := do
  let words := (← get).words
  let inside := words.takeWhile fun word => word ≠ ";" && word ≠ "+"
  modify fun s => { s with words := s.words.drop (inside.length + 1) }
  match words.drop inside.length with
  | ";" :: _ => pure (.run inside)
  | _ :: _ => pure (.collect inside.dropLast)
  | [] => throw ("missing argument to \x60" ++ condition ++ "'")

mutual

/-- Reads conditions of which one is enough; the steps bound how far they stand inside each other.
-/
def either : (steps : Nat) → Reader Condition
  | 0 => throw "too many conditions"
  | steps + 1 => do
    let first ← both steps
    match ← peek with
    | some "-o" | some "-or" => do
      skip
      return .either first (← either steps)
    | _ => pure first

/-- Reads conditions that all have to hold. -/
def both : (steps : Nat) → Reader Condition
  | 0 => throw "too many conditions"
  | steps + 1 => do
    let first ← one steps
    match ← peek with
    | none | some "-o" | some "-or" | some ")" => pure first
    | some "-a" | some "-and" => do
      skip
      return .both first (← both steps)
    | some _ => return .both first (← both steps)

/-- Reads one condition. -/
def one : (steps : Nat) → Reader Condition
  | 0 => throw "too many conditions"
  | steps + 1 => do
    let word ← argument "expression"
    match word with
    | "!" | "-not" => return .deny (← one steps)
    | "(" => do
      let inner ← either steps
      match ← peek with
      | some ")" =>
        skip
        pure inner
      | _ =>
        throw "invalid expression; I was expecting to find a ')' somewhere but did not see one."
    | "-name" => return .named (← argument word) false
    | "-iname" => return .named (← argument word) true
    | "-path" | "-wholename" => return .lies (← argument word)
    | "-type" => do
      match ← argument word with
      | "d" => pure .isDirectory
      | "f" => pure .isFile
      | "l" | "p" | "s" | "b" | "c" => pure .never
      | other => throw ("Unknown argument to -type: " ++ other)
    | "-maxdepth" => do
      let n ← number word
      modify fun s => { s with depth := { s.depth with most? := some n } }
      pure .always
    | "-mindepth" => do
      let n ← number word
      modify fun s => { s with depth := { s.depth with least := n } }
      pure .always
    | "-depth" => do
      modify fun s => { s with depth := { s.depth with upwards := true } }
      pure .always
    | "-empty" => pure .isEmpty
    | "-executable" => pure .isRunnable
    | "-true" => pure .always
    | "-false" => pure .never
    | "-print" => pure (.print "\n")
    | "-print0" => pure (.print "\x00")
    | "-prune" => pure .prune
    | "-quit" => pure .quit
    | "-delete" => do
      modify fun s => { s with depth := { s.depth with upwards := true } }
      pure .remove
    | "-exec" => command word
    | word => throw ("unknown predicate \x60" ++ word ++ "'")

end

end Reader

/-- Whether a condition does something with what is found. -/
def Condition.acts : Condition → Bool
  | .print _ | .quit | .remove | .run _ | .collect _ => true
  | .deny inner => inner.acts
  | .both a b | .either a b => a.acts || b.acts
  | _ => false

/-- Whether a word starts the conditions, in front of which paths stand. -/
def startsConditions (word : String) : Bool :=
  word = "!" || word = "(" || (word.toList.head? == some '-' && word ≠ "-")

/-- The condition that words write, with the depth. What is found is printed if nothing else is done
with it. -/
def conditionOf (words : List String) : Except String (Condition × Depth) := do
  if words.isEmpty then return (.print "\n", {})
  let (condition, s) ← (Reader.either (3 * words.length + 3)).run ⟨words, {}⟩
  if !s.words.isEmpty then throw "invalid expression; you have too many ')'"
  return (if condition.acts then condition else .both condition (.print "\n"), s.depth)

/-! ## Going through directories -/

/-- What is known while directories are gone through. -/
structure Progress where
  /-- The paths that are given to programs in the end, for each of them. -/
  collected : List (List String × List String) := []
  pruned : Bool := false
  quits : Bool := false
  failed : Bool := false

/-- Work while directories are gone through. -/
abbrev Search := StateT Progress Running

/-- Something that is found. -/
structure Found where
  path : String
  node : FileNode

/-- Whether a text fits a pattern. -/
def fitsPattern (pattern text : String) : Bool :=
  (Shell.Pattern.read (pattern.toList.map (·, false))).fits text.toList

/-- Runs a program; tells whether it has succeeded. -/
def succeeds (start : Starting) (words : List String) : Search Bool := do
  match ← start words with
  | .ok status => pure (status == 0)
  | .error fault => do
    warn (quoted (words.headD "") ++ ": " ++ fault.reason)
    pure false

/-- Whether a condition holds; it takes effect at once. -/
def holds (start : Starting) (f : Found) : Condition → Search Bool
  | .always => pure true
  | .never => pure false
  | .named pattern folds =>
    let name := lastName f.path
    pure (if folds then fitsPattern pattern.toLower name.toLower else fitsPattern pattern name)
  | .lies pattern => pure (fitsPattern pattern f.path)
  | .isDirectory => pure f.node.isDirectory
  | .isFile => pure !f.node.isDirectory
  | .isEmpty =>
    match f.node with
    | .file bytes _ => pure bytes.isEmpty
    | .directory entries => pure entries.isEmpty
  | .isRunnable =>
    match f.node with
    | .file _ runnable => pure runnable
    | .directory _ => pure true
  | .deny inner => do return !(← holds start f inner)
  | .both first second => do
    if ← holds start f first then holds start f second else pure false
  | .either first second => do
    if ← holds start f first then pure true else holds start f second
  | .print ending => do
    print (f.path ++ ending)
    pure true
  | .prune => do
    modify fun p => { p with pruned := true }
    pure true
  | .quit => do
    modify fun p => { p with quits := true }
    pure true
  | .remove => do
    if f.path = "." then pure true
    else
      match ← entryOf f.path with
      | .ok place => do
        eraseAt place
        pure true
      | .error fault => do
        warn ("cannot delete " ++ quoted f.path ++ ": " ++ fault.reason)
        modify fun p => { p with failed := true }
        pure false
  | .run command =>
    succeeds start (command.map fun word => Text.replaceAll word "\x7b\x7d" f.path)
  | .collect command => do
    modify fun p =>
      let paths := (p.collected.lookup command).getD []
      { p with collected := (command, f.path :: paths) :: p.collected.filter (·.1 ≠ command) }
    pure true

/-- Asks whether the condition holds for something that is deep enough. -/
def visit (start : Starting) (condition : Condition) (depth : Depth) (level : Nat) (f : Found) :
    Search Unit := do
  if depth.least ≤ level && !(← get).quits then
    let _ ← holds start f condition

mutual

/-- Goes through a node and what is below it. -/
def through (start : Starting) (condition : Condition) (depth : Depth) (level : Nat)
    (path : String) : FileNode → Search Unit
  | .file bytes runnable => visit start condition depth level ⟨path, .file bytes runnable⟩
  | .directory entries => do
    let f : Found := ⟨path, .directory entries⟩
    let goesOn := depth.most?.all fun most => level < most
    if depth.upwards then
      if goesOn then throughAll start condition depth level path entries
      visit start condition depth level f
    else
      modify fun p => { p with pruned := false }
      visit start condition depth level f
      if goesOn && !(← get).pruned then throughAll start condition depth level path entries
      modify fun p => { p with pruned := false }

/-- Goes through the entries of a directory. -/
def throughAll (start : Starting) (condition : Condition) (depth : Depth) (level : Nat)
    (path : String) : List (String × FileNode) → Search Unit
  | [] => pure ()
  | (name, node) :: rest => do
    through start condition depth (level + 1) (below path (raw name)) node
    throughAll start condition depth level path rest

end

/-- Goes through what is at a path. -/
def throughPath (start : Starting) (condition : Condition) (depth : Depth) (path : String) :
    Search Unit := do
  let m : Machine ← get (m := Running)
  match m.node path with
  | .ok node => through start condition depth 0 path node
  | .error fault => do
    warn (quoted path ++ ": " ++ fault.reason)
    modify fun p => { p with failed := true }

end Finding

open Finding in
/-- Finds files and directories for which a condition holds. -/
def find : Utility := fun start args => do
  let paths := args.takeWhile (!startsConditions ·)
  match conditionOf (args.drop paths.length) with
  | .error message => fail message
  | .ok (condition, depth) => do
    let work : Search Unit := do
      for path in if paths.isEmpty then ["."] else paths do
        throughPath start condition depth path
      for (command, found) in (← get).collected.reverse do
        if !(← succeeds start (command ++ found.reverse)) then
          modify fun p => { p with failed := true }
    let ((), p) ← work.run {}
    pure (if p.failed then 1 else 0)

end SignatureAudit.Emulation.Utility
