import SignatureAudit.Emulation.Shell.Pattern
import SignatureAudit.Emulation.Text.Regex.Reader
import SignatureAudit.Emulation.Utility.Basic

/-!
# Searching

The program that shows the lines of texts in which patterns occur. What a line is compared with, and
what is shown of the lines, is worked out from the options first.
-/

namespace SignatureAudit.Emulation.Utility

open Shell (Running Machine Utility)
open Shell.Running (print printLine)

/-- How patterns are written. -/
inductive PatternKind
  | fixed
  | regex (style : RegexStyle)
  deriving DecidableEq, Repr

namespace Search

/-- The plain style of regular expressions. -/
def plain : RegexStyle := { extended := false }

/-- The extended style of regular expressions. -/
def extended : RegexStyle := { extended := true, lenient := true }

/-- What a sign that repeats is called. -/
def signName (least : Nat) (most? : Option Nat) : String :=
  match least, most? with
  | 0, none => "*"
  | 1, none => "+"
  | 0, some 1 => "?"
  | _, _ => "{...}"

/-- The signs that repeat nothing, because a part of an expression starts with them. -/
def idleSigns (previous? : Option RegexToken) : List RegexToken → List String
  | [] => []
  | token :: rest =>
    let others := idleSigns (some token) rest
    match token with
    | .repetition least most? =>
      if RegexToken.starts previous? || previous? = some (.item .start) then
        signName least most? :: others
      else others
    | _ => others

/-- What lines are compared with. -/
structure Query where
  patterns : List Regex
  folds : Bool
  /-- Lines are shown in which no pattern occurs. -/
  inverted : Bool

namespace Query

/-- How a line is read. -/
def reading (q : Query) (line : String) : Regex.Reading :=
  { text := line.toList.toArray, folds := q.folds }

/-- Whether a line is one of those that are meant. -/
def accepts (q : Query) (line : String) : Bool :=
  let r := q.reading line
  (q.patterns.any (Regex.occurs r)) != q.inverted

/-- The parts of a line that the patterns fit. -/
def parts (q : Query) (line : String) : List String :=
  let r := q.reading line
  let regex := match q.patterns with
    | [] => none
    | first :: others => some (others.foldl Regex.either first)
  match regex with
  | none => []
  | some regex =>
    ((Regex.all r regex).filter fun f => f.start < f.finish).map fun f =>
      Regex.part r f.start f.finish

end Query

/-- The lines of patterns, each a pattern. -/
def patternLines (text : String) : List String := text.splitOn "\n"

/-- The expression that a pattern writes. -/
def expression (g : Given) (kind : PatternKind) (pattern : String) : Except RegexFault Regex := do
  let regex ← match kind with
    | .fixed => .ok (Regex.fixed pattern)
    | .regex style => Regex.read style pattern
  return if g.has "x" then regex.whole else if g.has "w" then regex.words else regex

/-- Whether a pattern is only a class without its outer brackets. -/
def lacksBrackets (pattern : String) : Bool :=
  match pattern.toList with
  | '[' :: ':' :: rest => rest.drop (rest.length - 2) = [':', ']'] && !rest.contains '['
  | _ => false

/-! ## What is shown -/

/-- How lines are shown. -/
structure Display where
  /-- A name stands in front. -/
  named : Bool
  numbered : Bool
  /-- Only the parts that fit are shown. -/
  partly : Bool
  before : Nat
  after : Nat

/-- What stands in front of a line. -/
def Display.front (d : Display) (path mark : String) (number : Nat) : String :=
  (if d.named then path ++ mark else "") ++ if d.numbered then toString number ++ mark else ""

/-- The lines that are shown around those that are meant, of which the numbers are given. -/
def withContext (d : Display) (path : String) (lines : Array String) (numbers : List Nat) :
    List String :=
  let isMeant (n : Nat) : Bool := numbers.contains n
  let isShown (n : Nat) : Bool :=
    numbers.any fun m => (m ≤ n && n ≤ m + d.after) || (n ≤ m && m ≤ n + d.before)
  let shown := (List.range lines.size).filter fun n => isShown (n + 1)
  let step (s : List String × Option Nat) (n : Nat) : List String × Option Nat :=
    let gap := s.2.any fun last => decide (last + 1 < n)
    let mark := if isMeant (n + 1) then ":" else "-"
    let line := d.front path mark (n + 1) ++ lines.getD n ""
    (line :: if gap then "--" :: s.1 else s.1, some n)
  (shown.foldl step ([], none)).1.reverse

/-- The lines that are shown of a text. -/
def shownLines (d : Display) (q : Query) (path : String) (lines : Array String)
    (numbers : List Nat) : List String :=
  if d.partly then
    numbers.flatMap fun n =>
      (q.parts (lines.getD (n - 1) "")).map fun part => d.front path ":" n ++ part
  else if d.before = 0 && d.after = 0 then
    numbers.map fun n => d.front path ":" n ++ lines.getD (n - 1) ""
  else withContext d path lines numbers

/-- The numbers of the lines that are meant, at most so many. -/
def accepted (q : Query) (lines : List String) (most? : Option Nat) : List Nat :=
  let numbers := (lines.zipIdx 1).filterMap fun (line, n) => if q.accepts line then some n else none
  match most? with
  | some most => numbers.take most
  | none => numbers

/-! ## The program -/

mutual

/-- The files at and below a path. -/
def filesBelow (path : String) : FileNode → List String
  | .file .. => [path]
  | .directory entries => filesIn path entries

/-- The files in and below a directory. -/
def filesIn (path : String) : List (String × FileNode) → List String
  | [] => []
  | (name, node) :: rest =>
    filesBelow (if path = "" then name else FileNode.join path name) node ++ filesIn path rest

end

/-- Whether a file is left out by its name. -/
def isLeftOut (g : Given) (path : String) : Bool :=
  let name := ((path.splitOn "/").getLast?.getD path).toList
  let fits (pattern : String) : Bool :=
    (Shell.Pattern.read (pattern.toList.map (·, false))).fits name
  (!(g.all "include").isEmpty && !(g.all "include").any fits) || (g.all "exclude").any fits

/-- The inputs that are searched. -/
def inputs (g : Given) (paths : List String) : Running (List String) := do
  if !g.has "r" then
    pure (if paths.isEmpty then ["-"] else paths)
  else
    let m ← get
    let below (path : String) : List String :=
      match m.node? path with
      | some (.directory entries) =>
        let files := (filesIn (if paths.isEmpty then "" else path) entries).mergeSort
        (files.map raw).filter (!isLeftOut g ·)
      | _ => [path]
    pure ((if paths.isEmpty then ["."] else paths).flatMap below)

/-- Searches inputs. -/
def searchAll (g : Given) (q : Query) (paths : List String) : Running Nat := do
  let inputs ← inputs g paths
  let context := ((g.last? "C").bind String.toNat?).getD 0
  let d : Display := {
    named := !g.has "h" && (g.has "H" || g.has "r" || 1 < inputs.length)
    numbered := g.has "n"
    partly := g.has "o"
    before := ((g.last? "B").bind String.toNat?).getD context
    after := ((g.last? "A").bind String.toNat?).getD context }
  let most? := (g.last? "m").bind String.toNat?
  let mut found := false
  let mut failed := false
  let mut shownBefore := false
  for path in inputs do
    if g.has "q" && found then break
    let name := if path = "-" then "(standard input)" else path
    match ← textOf path with
    | .error fault =>
      if !g.has "s" then warn (path ++ ": " ++ fault.reason)
      failed := true
    | .ok text =>
      let (lines, _) := linesOf text
      let numbers := if most? = some 0 then [] else accepted q lines most?
      let hit := !numbers.isEmpty
      if g.has "L" then
        if !hit then
          found := true
          printLine name
      else if hit then found := true
      if g.has "q" || g.has "L" then pure ()
      else if g.has "l" then
        if hit then printLine name
      else if g.has "c" then
        printLine ((if d.named then name ++ ":" else "") ++ toString numbers.length)
      else if hit && !g.has "a" && text.toList.contains '\x00' then
        warn (name ++ ": binary file matches")
      else if hit then
        let shown := shownLines d q name lines.toArray numbers
        let apart := shownBefore && (0 < d.before || 0 < d.after) && !shown.isEmpty && !d.partly
        if apart then printLine "--"
        if !shown.isEmpty then shownBefore := true
        printLines shown
  pure (if found && (g.has "q" || !failed) then 0 else if failed then 2 else 1)

/-- The options of the program. -/
def rules : List OptionRule :=
  [letter 'E' ["extended-regexp"], letter 'F' ["fixed-strings"], letter 'G' ["basic-regexp"],
   letter 'P' ["perl-regexp"], { name := "i", letters := ['i', 'y'], words := ["ignore-case"] },
   letter 'v' ["invert-match"], letter 'c' ["count"], letter 'l' ["files-with-matches"],
   letter 'L' ["files-without-match"], letter 'n' ["line-number"], letter 'q' ["quiet", "silent"],
   letter 's' ["no-messages"], letter 'o' ["only-matching"], letter 'h' ["no-filename"],
   letter 'H' ["with-filename"], letter 'w' ["word-regexp"], letter 'x' ["line-regexp"],
   letter 'a' ["text"], letter 'U', letter 'T', letter 'I', letter 'b', letter 'z',
   letter 'Z' ["null"],
   { name := "r", letters := ['r', 'R'], words := ["recursive"] },
   taking 'e' ["regexp"], taking 'f' ["file"], taking 'm' ["max-count"],
   taking 'A' ["after-context"], taking 'B' ["before-context"], taking 'C' ["context"],
   { name := "include", words := ["include"], arity := .required },
   { name := "exclude", words := ["exclude"], arity := .required },
   { name := "exclude-dir", words := ["exclude-dir"], arity := .required },
   { name := "color", words := ["color", "colour"], arity := .optional },
   { name := "line-buffered", words := ["line-buffered"] }]

/-- How patterns are written, if options do not say otherwise. -/
def kindOf (usual : PatternKind) (g : Given) : PatternKind :=
  match g.options.reverse.find? fun (name, _) => ["E", "F", "G", "P"].contains name with
  | some ("E", _) => .regex extended
  | some ("P", _) => .regex { extended with digits := true }
  | some ("F", _) => .fixed
  | some _ => .regex plain
  | none => usual

/-- The patterns that options give, or why there are none. -/
def patterns (g : Given) : Running (Option (List String)) := do
  let mut texts := (g.all "e").flatMap patternLines
  for path in g.all "f" do
    match ← textOf path with
    | .ok text => texts := texts ++ (linesOf text).1
    | .error fault =>
      warn (path ++ ": " ++ fault.reason)
      return none
  return some texts

/-- Tells how the program is used. -/
def usage : Running Nat := do
  Running.put 2 ("Usage: " ++ (← called) ++ " [OPTION]... PATTERNS [FILE]...\n" ++ (← hint) ++ "\n")
  pure 2

/-- Writes a message of the program without its whole name. -/
def tell (message : String) : Running Nat := do
  Running.put 2 ("grep: " ++ message ++ "\n")
  pure 2

end Search

open Search in
/-- Shows the lines of texts in which patterns occur that are usually written in some way. -/
def grepAs (usual : PatternKind) : Utility := fun _ args => do
  match readArguments rules false args with
  | .error message => do
    warn message
    usage
  | .ok g =>
    match ← patterns g with
    | none => pure 2
    | some given =>
      let hasPatterns := g.has "e" || g.has "f"
      match hasPatterns, g.operands with
      | false, [] => usage
      | _, operands =>
        let texts := if hasPatterns then given else patternLines (operands.head?.getD "")
        let paths := if hasPatterns then operands else operands.drop 1
        let kind := kindOf usual g
        match texts.mapM (expression g kind) with
        | .error fault => tell fault.message
        | .ok regexes => do
          for text in texts do
            match kind with
            | .regex style =>
              if style.extended then
                for sign in idleSigns none ((RegexToken.readAll style text).toOption.getD []) do
                  let _ ← tell ("warning: " ++ sign ++ " at start of expression")
            | .fixed => pure ()
          if kind != .fixed && texts.any lacksBrackets then
            tell "character class syntax is [[:space:]], not [:space:]"
          else if (g.last? "m").any fun most => most.toInt?.isNone then
            tell "invalid max count"
          else searchAll g ⟨regexes, g.has "i", g.has "v"⟩ paths

/-- Shows lines in which regular expressions occur. -/
def grep : Utility := grepAs (.regex Search.plain)

/-- Shows lines in which extended regular expressions occur. -/
def egrep : Utility := grepAs (.regex Search.extended)

/-- Shows lines in which fixed texts occur. -/
def fgrep : Utility := grepAs .fixed

end SignatureAudit.Emulation.Utility
