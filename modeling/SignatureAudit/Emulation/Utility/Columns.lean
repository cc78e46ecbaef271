import SignatureAudit.Emulation.Shell.Format
import SignatureAudit.Emulation.Text.CharSet
import SignatureAudit.Emulation.Utility.Basic

/-!
# Programs for parts of lines and for characters

A program that shows chosen fields or characters of each line, and one that replaces or leaves out
characters. Both are told what they work on by lists: of numbers and ranges of numbers, or of
characters, ranges and classes of characters.
-/

namespace SignatureAudit.Emulation.Utility

open Shell (Running Machine Utility)
open Shell.Running (print)

/-! ## Fields and characters of lines -/

/-- Numbers from one to another, or from one on. -/
structure NumberRange where
  low : Nat
  high? : Option Nat
  deriving DecidableEq, Repr

namespace NumberRange

/-- Whether a number is in a range. -/
def contains (r : NumberRange) (n : Nat) : Bool := r.low ≤ n && r.high?.all (n ≤ ·)

/-- A number from one on, which is written in a list. -/
def numberOf (fields : Bool) (list digits : String) : Except String Nat :=
  let zero := if fields then "fields are numbered from 1"
    else "byte/character positions are numbered from 1"
  match digits.toNat? with
  | some 0 => .error zero
  | some n => .ok n
  | none =>
    if digits = "" then .error zero
    else
      .error ("invalid " ++ (if fields then "field value " else "byte/character position ")
        ++ quoted list)

/-- Reads the ends of a range. -/
def ofEnds (fields : Bool) (list : String) : List String → Except String NumberRange
  | ["", ""] => .error "invalid range with no endpoint: -"
  | [digits] => do
    let n ← numberOf fields list digits
    .ok ⟨n, some n⟩
  | [low, ""] => do .ok ⟨← numberOf fields list low, none⟩
  | ["", high] => do .ok ⟨1, some (← numberOf fields list high)⟩
  | [low, high] => do
    let low ← numberOf fields list low
    let high ← numberOf fields list high
    if high < low then .error "invalid decreasing range" else .ok ⟨low, some high⟩
  | _ => .error (if fields then "invalid field range" else "invalid byte or character range")

/-- Reads a list of ranges. -/
def readAll (fields : Bool) (text : String) : Except String (List NumberRange) :=
  let parts := (text.splitOn ",").flatMap fun part => part.splitOn " "
  parts.mapM fun part => ofEnds fields text (part.splitOn "-")

end NumberRange

/-- What is shown of lines. -/
structure Cut where
  ranges : List NumberRange
  fields : Bool
  mark : String
  /-- What stands between the parts that are shown. -/
  joint? : Option String
  /-- Everything else is shown. -/
  others : Bool
  /-- Lines without a mark are left out. -/
  onlyMarked : Bool

namespace Cut

/-- Whether a part is shown. -/
def shows (c : Cut) (n : Nat) : Bool := (c.ranges.any (·.contains n)) != c.others

/-- The parts of a list that are shown, those side by side together. -/
def runs {α : Type} (c : Cut) (parts : List α) : List (List α) :=
  let step (s : List (List α) × Bool) (p : α × Nat) : List (List α) × Bool :=
    let (part, n) := p
    if !c.shows n then (s.1, false)
    else
      let starts := c.ranges.any (·.low = n) && !c.others
      match s with
      | (run :: runs, true) => if starts then ([part] :: run :: runs, true)
        else ((part :: run) :: runs, true)
      | (runs, _) => ([part] :: runs, true)
  ((parts.zipIdx 1).foldl step ([], false)).1.reverse.map List.reverse

/-- What is shown of a line, if anything. -/
def line? (c : Cut) (line : String) : Option String :=
  if c.fields then
    let parts := line.splitOn c.mark
    if parts.length = 1 then if c.onlyMarked then none else some line
    else
      let shown := ((parts.zipIdx 1).filter fun (_, n) => c.shows n).map (·.1)
      some ((c.joint?.getD c.mark).intercalate shown)
  else
    let runs := (c.runs line.toList).map String.ofList
    some ((c.joint?.getD "").intercalate runs)

/-- What options ask for. -/
def ofOptions (g : Given) : Except String Cut := do
  let lists := g.options.filter fun (name, _) => ["f", "c", "b"].contains name
  match lists with
  | [] => .error "you must specify a list of bytes, characters, or fields"
  | _ :: _ :: _ => .error "only one list may be specified"
  | [(kind, list)] =>
    let fields := kind = "f"
    let mark := (g.last? "d").getD "\t"
    if mark.length > 1 then .error "the delimiter must be a single character"
    else if !fields && g.has "d" then
      .error "an input delimiter may be specified only when operating on fields"
    else if !fields && g.has "s" then
      .error "suppressing non-delimited lines makes sense\n\tonly when operating on fields"
    else
      .ok {
        ranges := ← NumberRange.readAll fields list
        fields
        mark := if mark = "" then "\x00" else mark
        joint? := g.last? "output-delimiter"
        others := g.has "complement"
        onlyMarked := g.has "s" }

end Cut

/-- Shows parts of lines. -/
def cut : Utility := fun _ =>
  withOptions [taking 'f' ["fields"], taking 'c' ["characters"], taking 'b' ["bytes"],
    taking 'd' ["delimiter"], letter 's' ["only-delimited"], letter 'n',
    letter 'z' ["zero-terminated"],
    { name := "complement", words := ["complement"] },
    { name := "output-delimiter", words := ["output-delimiter"], arity := .required }] fun g => do
      match Cut.ofOptions g with
      | .error message => misuse message
      | .ok c =>
        eachInput g.operands fun _ text => printLines ((linesOf text).1.filterMap c.line?)

/-! ## Characters -/

/-- A part of a list of characters. -/
inductive CharItem
  | each (characters : List Char)
  | called (name : String) (characters : List Char)
  /-- A character so often, or as often as needed. -/
  | fill (character : Char) (count? : Option Nat)
  deriving DecidableEq, Repr

namespace CharItem

/-- The characters of a number of one byte, in their order. -/
def bytes : List Char := (List.range 256).map Char.ofNat

/-- The characters of a text, of which each may be an escape. -/
def units : (skip : Nat) → List Char → List (Char × Bool)
  | _, [] => []
  | skip + 1, _ :: rest => units skip rest
  | 0, c :: rest =>
    if c != '\\' then (c, false) :: units 0 rest
    else
      let digits := (rest.takeWhile Shell.Escape.isOctal).take 3
      if !digits.isEmpty then
        let n : Nat := digits.foldl (fun n c => 8 * n + (c.toNat - 48)) 0
        (Char.ofNat (n % 256), true) :: units digits.length rest
      else
        match rest with
        | [] => [('\\', false)]
        | d :: _ => ((Shell.Escape.letter? d).getD d, true) :: units 1 rest

/-- The class that is called at the front of a text behind its first two signs: its name, and with
how many characters it is written. -/
def classAt? (rest : List (Char × Bool)) : Option (String × Nat) :=
  let name := (rest.takeWhile fun u => u.1.isAlpha).map (·.1)
  match rest.drop name.length with
  | (':', false) :: (']', false) :: _ => some (String.ofList name, name.length + 2)
  | _ => none

/-- The repeated character at the front of a text behind its bracket, and with how many characters
it is written. -/
def fillAt? : List (Char × Bool) → Option (CharItem × Nat)
  | (c, _) :: ('*', false) :: rest =>
    let digits := (rest.takeWhile fun u => u.1.isDigit).map (·.1)
    match rest.drop digits.length with
    | (']', false) :: _ =>
      let base := if digits.head? == some '0' then 8 else 10
      let n : Nat := digits.foldl (fun n d => base * n + (d.toNat - 48)) 0
      some (.fill c (if n = 0 then none else some n), digits.length + 3)
    | _ => none
  | _ => none

/-- Reads a list of characters; some are skipped first. -/
def readFrom : (skip : Nat) → List (Char × Bool) → Except String (List CharItem)
  | _, [] => .ok []
  | skip + 1, _ :: rest => readFrom skip rest
  | 0, (c, quoted) :: rest =>
    let bracket := c == '[' && !quoted
    let named := match rest with
      | (':', false) :: inner => if bracket then classAt? inner else none
      | _ => none
    match named, if bracket then fillAt? rest else none with
    | some (name, length), _ =>
      match CharSet.classRanges? name with
      | none => .error ("invalid character class " ++ Utility.quoted name)
      | some ranges => do
        let members := bytes.filter ({ ranges : CharSet }.contains)
        return .called name members :: (← readFrom (length + 1) rest)
    | none, some (item, length) => do return item :: (← readFrom length rest)
    | none, none =>
      match rest with
      | ('-', false) :: (high, _) :: _ =>
        if high < c then
          .error ("range-endpoints of " ++ Utility.quoted (String.ofList [c, '-', high])
            ++ " are in reverse collating sequence order")
        else do
          let members := bytes.filter fun d => c ≤ d && d ≤ high
          return .each members :: (← readFrom 2 rest)
      | _ => do return .each [c] :: (← readFrom 0 rest)

/-- Reads a list of characters. -/
def readAll (text : String) : Except String (List CharItem) := readFrom 0 (units 0 text.toList)

/-- The number of characters that do not depend on how many are needed. -/
def width : CharItem → Nat
  | .each characters | .called _ characters => characters.length
  | .fill _ count? => count?.getD 0

/-- The characters of a list, of which so many are needed. -/
def expand (needed : Nat) (items : List CharItem) : List Char :=
  let fixed := (items.map width).foldl (· + ·) 0
  items.flatMap fun
    | .each characters | .called _ characters => characters
    | .fill character count? => List.replicate (count?.getD (needed - fixed)) character

end CharItem

/-- How characters are replaced. -/
structure Replacing where
  /-- The characters that are left out. -/
  deletes : List Char := []
  /-- What characters become. -/
  table : List (Char × Char) := []
  /-- The characters of which only the first of some in a row is kept. -/
  squeezes : List Char := []

/-- A table of the characters by their numbers. -/
def flags (members : List Char) : Array Bool :=
  members.foldl (fun a c => a.setIfInBounds c.toNat true) (Array.replicate 256 false)

/-- A text in which characters are left out, replaced and squeezed. -/
def Replacing.apply (r : Replacing) (text : String) : String :=
  let deleted := flags r.deletes
  let squeezed := flags r.squeezes
  let table := r.table.foldl (fun a (c, d) => a.setIfInBounds c.toNat d) CharItem.bytes.toArray
  let step (s : List Char × Option Char) (c : Char) : List Char × Option Char :=
    if deleted.getD c.toNat false then s
    else
      let d := table.getD c.toNat c
      if squeezed.getD d.toNat false && s.2 == some d then s else (d :: s.1, some d)
  String.ofList (text.toList.foldl step ([], none)).1.reverse

/-- The rest of a list of characters, so that it has a given length. -/
def stretched (length : Nat) (cs : List Char) : List Char :=
  match cs.getLast? with
  | some last => cs ++ List.replicate (length - cs.length) last
  | none => cs

/-- How options and lists of characters ask to replace characters. -/
def replacingOf (g : Given) (first : List CharItem) (second? : Option (List CharItem)) :
    Except String Replacing :=
  let members := CharItem.expand 0 first
  let members := if g.has "c" then CharItem.bytes.filter (!members.contains ·) else members
  let others := (second?.map (CharItem.expand members.length)).getD []
  if g.has "d" then
    .ok { deletes := members, squeezes := if g.has "s" then others else [] }
  else
    match second? with
    | none => .ok { squeezes := members }
    | some second =>
      let misplaced := second.any fun
        | .called name _ => name != "upper" && name != "lower"
        | _ => false
      if others.isEmpty && !g.has "t" then
        .error "when not truncating set1, string2 must be non-empty"
      else if misplaced then
        .error ("when translating, the only character classes that may appear in\n"
          ++ "string2 are 'upper' and 'lower'")
      else
        let goals := if g.has "t" then others else stretched members.length others
        .ok { table := members.zip goals, squeezes := if g.has "s" then others else [] }

/-- Tells that an operand is missing or that there are too many. -/
def misoperated (about : String) (explanation? : Option String) : Running Nat := do
  warn about
  match explanation? with
  | some explanation => Running.put 2 (explanation ++ "\n")
  | none => pure ()
  Running.put 2 ((← hint) ++ "\n")
  pure 1

/-- Replaces characters of the input as options and two lists ask for. -/
def replace (g : Given) (first : String) (second? : Option String) : Running Nat := do
  let replacing := do
    let first ← CharItem.readAll first
    let second? ← second?.mapM CharItem.readAll
    replacingOf g first second?
  match replacing with
  | .error message => fail message
  | .ok replacing => do
    print (replacing.apply (← Running.readAll 0))
    pure 0

/-- Replaces characters, or leaves them out. -/
def tr : Utility := fun _ =>
  withStyle { inFront := true }
    [{ name := "c", letters := ['c', 'C'], words := ["complement"] }, letter 'd' ["delete"],
     letter 's' ["squeeze-repeats"], letter 't' ["truncate-set1"]] fun g => do
      let deletes := g.has "d"
      let squeezes := g.has "s"
      let two := deletes = squeezes
      match g.operands with
      | [] => misuse "missing operand"
      | first :: rest =>
        let after := "missing operand after " ++ quoted first
        match rest with
        | [] =>
          if two && deletes then
            misoperated after
              (some "Two strings must be given when both deleting and squeezing repeats.")
          else if two then
            misoperated after (some "Two strings must be given when translating.")
          else replace g first none
        | [second] =>
          if deletes && !squeezes then
            misoperated ("extra operand " ++ quoted second)
              (some "Only one string may be given when deleting without squeezing repeats.")
          else replace g first (some second)
        | _ :: extra :: _ => misuse ("extra operand " ++ quoted extra)

end SignatureAudit.Emulation.Utility
