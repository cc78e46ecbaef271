import SignatureAudit.Emulation.Utility.Place

/-!
# Differences of texts

Two texts are compared line by line: `Change.between` answers the fewest lines that have to be
removed and added to come from one to the other. The lengths of the longest common parts, from which
it follows, are kept in a table.
-/

namespace SignatureAudit.Emulation.Utility

open Shell (Running Machine Utility)
open Shell.Running (print printLine)

/-- What becomes of a line. -/
inductive Change
  | kept (line : String)
  | removed (line : String)
  | added (line : String)
  deriving DecidableEq, Repr

namespace Change

/-- The lengths of the longest common parts of a line with those behind it and each end of a text,
given those of the lines behind it; the whole text comes first. -/
def lengthsWith (line : String) : List String → (behind : List Nat) → List Nat
  | other :: others, length :: lengths =>
    let rest := lengthsWith line others lengths
    let best := if line = other then lengths.headD 0 + 1 else max length (rest.headD 0)
    best :: rest
  | _, _ => [0]

/-- The lengths of the longest common parts of each end of a text with each end of another. -/
def lengths (second : List String) : (first : List String) → List (List Nat)
  | [] => [List.replicate (second.length + 1) 0]
  | line :: rest =>
    let behind := lengths second rest
    lengthsWith line second (behind.headD []) :: behind

/-- The changes from one text to another, given the lengths of their longest common parts behind
positions in them. -/
def along (common : Nat → Nat → Nat) (i j : Nat) : (first second : List String) → List Change
  | [], second => second.map .added
  | first, [] => first.map .removed
  | a :: first, b :: second =>
    if a = b then .kept a :: along common (i + 1) (j + 1) first second
    else if common i (j + 1) ≤ common (i + 1) j then
      .removed a :: along common (i + 1) j first (b :: second)
    else .added b :: along common i (j + 1) (a :: first) second
termination_by first second => first.length + second.length

/-- The changes from one text to another. -/
def between (first second : List String) : List Change :=
  let table := ((lengths second first).map List.toArray).toArray
  along (fun i j => (table.getD i #[]).getD j 0) 0 0 first second

/-- Whether a line stays. -/
def isKept : Change → Bool
  | .kept _ => true
  | _ => false

/-- Whether the first text has the line. -/
def isBefore : Change → Bool
  | .added _ => false
  | _ => true

/-- Whether the second text has the line. -/
def isBehind : Change → Bool
  | .removed _ => false
  | _ => true

end Change

/-- Changes with the numbers of lines of both texts in front of them. -/
structure Hunk where
  before : Nat
  behind : Nat
  changes : List Change
  deriving Repr

namespace Hunk

/-- The number of lines of the first text. -/
def lengthBefore (h : Hunk) : Nat := h.changes.countP Change.isBefore

/-- The number of lines of the second text. -/
def lengthBehind (h : Hunk) : Nat := h.changes.countP Change.isBehind

/-- Cuts changes into hunks; each has the kept lines, or the others. -/
def split (changes : List Change) : List Hunk :=
  let groups := changes.splitBy fun a b => a.isKept == b.isKept
  let step (s : List Hunk × Nat × Nat) (group : List Change) : List Hunk × Nat × Nat :=
    let h : Hunk := ⟨s.2.1, s.2.2, group⟩
    (h :: s.1, s.2.1 + h.lengthBefore, s.2.2 + h.lengthBehind)
  (groups.foldl step ([], 0, 0)).1.reverse

/-- A line behind a mark; a line without a newline is told. -/
def marked (mark line : String) : String :=
  if line.toList.getLast? == some '\n' then mark ++ line
  else mark ++ line ++ "\n\\ No newline at end of file\n"

/-- The numbers of lines from one on, behind which so many stand. -/
def range (before length : Nat) : String :=
  if length = 0 then toString before
  else if length = 1 then toString (before + 1)
  else toString (before + 1) ++ "," ++ toString (before + length)

/-- The text of changes in the plain form. -/
def plainText (h : Hunk) : String :=
  let removed := h.changes.filterMap fun
    | .removed line => some (marked "< " line)
    | _ => none
  let added := h.changes.filterMap fun
    | .added line => some (marked "> " line)
    | _ => none
  let letter := if added.isEmpty then "d" else if removed.isEmpty then "a" else "c"
  range h.before h.lengthBefore ++ letter ++ range h.behind h.lengthBehind ++ "\n"
    ++ String.join removed ++ (if letter = "c" then "---\n" else "") ++ String.join added

/-- The number of kept lines that are shown around changes. -/
def context : Nat := 3

/-- The last kept lines in front of changes. -/
def tailOf (h : Hunk) : Hunk :=
  let dropped := h.changes.length - context
  ⟨h.before + dropped, h.behind + dropped, h.changes.drop dropped⟩

/-- Puts hunks together that have few kept lines between them, and leaves out most kept lines. -/
def joined : List Hunk → List Hunk
  | [] => []
  | h :: rest =>
    let later := joined rest
    if h.changes.all Change.isKept then
      match later with
      | [] => [⟨h.before, h.behind, h.changes.take context⟩]
      | next :: others =>
        if h.changes.length ≤ 2 * context then
          ⟨h.before, h.behind, h.changes ++ next.changes⟩ :: others
        else
          let front := h.tailOf
          ⟨h.before, h.behind, h.changes.take context⟩
            :: ⟨front.before, front.behind, front.changes ++ next.changes⟩ :: others
    else
      match later with
      | [] => [h]
      | next :: others => ⟨h.before, h.behind, h.changes ++ next.changes⟩ :: others

/-- The hunks of changes with kept lines around them. -/
def withContext (changes : List Change) : List Hunk :=
  match split changes with
  | [] => []
  | h :: rest =>
    let start := if h.changes.all Change.isKept then h.tailOf else h
    (joined (start :: rest)).filter fun h => h.changes.any (!·.isKept)

/-- The numbers of lines in the head of a hunk. -/
def headRange (before length : Nat) : String :=
  if length = 1 then toString (before + 1)
  else toString (if length = 0 then before else before + 1) ++ "," ++ toString length

/-- The lines of changes in the form with context: of neighbours, the removed ones come first. -/
def contextLines (changes : List Change) : List String :=
  (changes.splitBy fun a b => a.isKept == b.isKept).flatMap fun group =>
    let ranked := group.filter (!·.isBehind) ++ group.filter fun c => c.isBehind
    ranked.map fun
      | .kept line => marked " " line
      | .removed line => marked "-" line
      | .added line => marked "+" line

/-- The text of changes in the form with context. -/
def contextText (h : Hunk) : String :=
  "@@ -" ++ headRange h.before h.lengthBefore
    ++ " +" ++ headRange h.behind h.lengthBehind ++ " @@\n"
    ++ String.join (contextLines h.changes)

end Hunk

/-- The lines of a text with their newlines. -/
def wholeLines (text : String) : List String :=
  let (lines, whole) := linesOf text
  let last := lines.length - 1
  if text = "" then []
  else lines.zipIdx.map fun (line, n) => if whole || n < last then line ++ "\n" else line

namespace Difference

/-- Tells that the program was called in a wrong way. -/
def misused (message : String) : Running Nat := do
  warn message
  warn (← hint)
  pure 2

/-- Tells in which way two paths differ, and whether they do. -/
def compare (g : Given) (first second a b : String) : Running Nat := do
  if a = b then
    if g.has "s" then printLine ("Files " ++ first ++ " and " ++ second ++ " are identical")
    pure 0
  else if g.has "q" then
    printLine ("Files " ++ first ++ " and " ++ second ++ " differ")
    pure 1
  else
    let folded (text : String) : String := if g.has "i" then text.toLower else text
    let changes := Change.between (wholeLines (folded a)) (wholeLines (folded b))
    if changes.all Change.isKept then pure 0
    else
      if g.has "u" then
        let time := "\t1970-01-01 00:00:00.000000000 +0000\n"
        print ("--- " ++ first ++ time ++ "+++ " ++ second ++ time
          ++ String.join ((Hunk.withContext changes).map Hunk.contextText))
      else
        print (String.join (((Hunk.split changes).filter fun h => h.changes.any (!·.isKept)).map
          Hunk.plainText))
      pure 1

/-- Where one of two paths is a directory, the other names what is compared in it. -/
def matched (m : Machine) (path other : String) : String :=
  let isDirectory (path : String) : Bool := (m.node? path).any FileNode.isDirectory
  if isDirectory path && !isDirectory other then below path (lastName other) else path

end Difference

open Difference in
/-- Tells in which lines two files differ. -/
def diff : Utility := fun _ args => do
  let rules := [letter 'q' ["brief"], letter 's' ["report-identical-files"],
    letter 'i' ["ignore-case"],
    letter 'u' ["unified"], letter 'a' ["text"], letter 'N' ["new-file"]]
  match readArguments rules false args with
  | .error message => misused message
  | .ok g =>
    match g.operands with
    | [] => misused ("missing operand after " ++ quoted (← called))
    | [path] => misused ("missing operand after " ++ quoted path)
    | first :: second :: _ => do
      let m ← get
      let one := matched m first second
      let other := matched m second first
      match ← textOf one, ← textOf other with
      | .ok a, .ok b => compare g one other a b
      | .error fault, .ok _ => fail (one ++ ": " ++ fault.reason) 2
      | .ok _, .error fault => fail (other ++ ": " ++ fault.reason) 2
      | .error fault, .error second => do
        warn (one ++ ": " ++ fault.reason)
        fail (other ++ ": " ++ second.reason) 2

/-- The number of characters that two texts have in common at their fronts. -/
def commonLength : List Char → List Char → Nat
  | a :: first, b :: second => if a = b then commonLength first second + 1 else 0
  | _, _ => 0

/-- Tells where two files differ first. -/
def cmp : Utility := fun _ args => do
  match readArguments [letter 's' ["quiet", "silent"], letter 'b' ["print-bytes"]] false args with
  | .error message => Difference.misused message
  | .ok g =>
    match g.operands with
    | [] => Difference.misused ("missing operand after " ++ quoted (← called))
    | first :: rest => do
      let second := rest.headD "-"
      let told (path : String) (fault : FileFault) : Running Nat := do
        if !g.has "s" then warn (path ++ ": " ++ fault.reason)
        pure 2
      match ← textOf first, ← textOf second with
      | .error fault, _ => told first fault
      | _, .error fault => told second fault
      | .ok a, .ok b =>
        if a = b then pure 0
        else
          let same := commonLength a.toList b.toList
          let front := a.toList.take same
          let lines := front.count '\n'
          let shorter? := if same = a.length then some first
            else if same = b.length then some second
            else none
          if !g.has "s" then
            match shorter? with
            | none =>
              printLine (first ++ " " ++ second
                ++ " differ: char " ++ toString (same + 1) ++ ", line "
                ++ toString (lines + 1))
            | some path =>
              if same = 0 then warn ("EOF on " ++ path ++ " which is empty")
              else
                let ends := front.getLast? == some '\n'
                warn ("EOF on " ++ path ++ " after byte " ++ toString same ++ ", "
                  ++ (if ends then "line " ++ toString lines
                    else "in line " ++ toString (lines + 1)))
          pure 1

end SignatureAudit.Emulation.Utility
