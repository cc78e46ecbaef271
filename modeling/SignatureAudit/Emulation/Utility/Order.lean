import SignatureAudit.Emulation.Text.Magnitude
import SignatureAudit.Emulation.Utility.Basic

/-!
# Programs for sorted lines

Lines are sorted by keys, each with an order of its own; lines whose keys are all the same are
sorted as texts. The other programs here compare neighbouring lines, or the lines of two sorted
texts.
-/

namespace SignatureAudit.Emulation.Utility

open Shell (Running Machine Utility)
open Shell.Running (print printLine)

/-! ## Orders of texts -/

/-- How texts are compared. -/
inductive TextOrder
  | plain
  | numeric
  /-- Numbers with the letter of a multiple behind them. -/
  | sizes
  /-- Numbers with an exponent. -/
  | general
  | months
  | versions
  deriving DecidableEq, Repr

namespace TextOrder

/-- A blank. -/
def isBlank (c : Char) : Bool := c == ' ' || c == '\t' || c == '\n'

/-- The number at the front of a text: its sign, its digits and the number of its places, and what
follows. -/
def number (cs : List Char) : Int × Nat × List Char :=
  let (negative, cs) := match cs.dropWhile isBlank with
    | '-' :: cs => (true, cs)
    | cs => (false, cs)
  let whole := cs.takeWhile Char.isDigit
  let rest := cs.drop whole.length
  let (places, rest) := match rest with
    | '.' :: rest =>
      let places := rest.takeWhile Char.isDigit
      (places, rest.drop places.length)
    | rest => ([], rest)
  let n : Nat := (whole ++ places).foldl (fun n c => 10 * n + (c.toNat - 48)) 0
  (if negative then -n else n, places.length, rest)

/-- Compares two decimal numbers. -/
def compareDecimals (a : Int × Nat) (b : Int × Nat) : Ordering :=
  compare (a.1 * (Nat.pow 10 b.2 : Nat)) (b.1 * (Nat.pow 10 a.2 : Nat))

/-- The rank of the letter of a multiple. -/
def multiple (rest : List Char) : Nat :=
  match rest with
  | c :: _ =>
    let mark := if c == 'k' then 'K' else c
    (['K', 'M', 'G', 'T', 'P', 'E', 'Z', 'Y'].findIdx? (· == mark)).elim 0
      (· + 1)
  | [] => 0

/-- Compares numbers with letters of multiples. -/
def compareSizes (a b : List Char) : Ordering :=
  let (x, xPlaces, xRest) := number a
  let (y, yPlaces, yRest) := number b
  let sign (n : Int) (rank : Nat) : Int :=
    if n < 0 then -(rank : Int) - 1 else if n = 0 then 0 else rank + 1
  (compare (sign x (multiple xRest)) (sign y (multiple yRest))).then
    (compareDecimals (x, xPlaces) (y, yPlaces))

/-- The value of a number with an exponent as a fraction; texts that are no numbers come first. -/
def generalValue (cs : List Char) : Option (Int × Nat) :=
  let (negative, cs) := match cs.dropWhile isBlank with
    | '-' :: cs => (true, cs)
    | '+' :: cs => (false, cs)
    | cs => (false, cs)
  (Magnitude.read? cs).map fun (digits, power, _) =>
    let m := Magnitude.ofDecimal digits power
    (if negative then -(m.numerator : Int) else m.numerator, m.denominator)

/-- Compares numbers with exponents. -/
def compareGeneral (a b : List Char) : Ordering :=
  match generalValue a, generalValue b with
  | none, none => .eq
  | none, some _ => .lt
  | some _, none => .gt
  | some (x, d), some (y, e) => compare (x * (e : Int)) (y * (d : Int))

/-- The rank of the name of a month. -/
def month (cs : List Char) : Nat :=
  let name := (String.ofList ((cs.dropWhile isBlank).take 3)).toUpper
  ((["JAN", "FEB", "MAR", "APR", "MAY", "JUN", "JUL", "AUG", "SEP", "OCT", "NOV", "DEC"].findIdx?
    (· = name)).map (· + 1)).getD 0

/-- The rank of a character between the numbers of a version. -/
def versionRank (c : Char) : Nat :=
  if c == '~' then 0 else if c.isAlpha then c.toNat + 1 else c.toNat + 257

/-- A version as numbers and the characters between them, by rank. -/
def versionParts (cs : List Char) : List (List Nat) :=
  (cs.splitBy fun a b => a.isDigit == b.isDigit).map fun part =>
    if part.head?.any Char.isDigit then [1, part.foldl (fun n c => 10 * n + (c.toNat - 48)) 0]
    else (part.map versionRank) ++ [1]

/-- Compares two texts. -/
def order (o : TextOrder) (a b : List Char) : Ordering :=
  match o with
  | .plain => compare a b
  | .numeric =>
    let (x, xPlaces, _) := number a
    let (y, yPlaces, _) := number b
    compareDecimals (x, xPlaces) (y, yPlaces)
  | .sizes => compareSizes a b
  | .general => compareGeneral a b
  | .months => compare (month a) (month b)
  | .versions => compare (versionParts a) (versionParts b)

/-- The order that a letter asks for. -/
def ofLetter? : Char → Option TextOrder
  | 'n' => some .numeric
  | 'h' => some .sizes
  | 'g' => some .general
  | 'M' => some .months
  | 'V' => some .versions
  | _ => none

end TextOrder

/-! ## Keys -/

/-- An end of a key: a field, and a character in it. -/
structure KeyEnd where
  field : Nat
  character : Nat
  deriving DecidableEq, Repr

/-- A part of lines by which they are sorted. -/
structure SortKey where
  first : KeyEnd := ⟨1, 1⟩
  last? : Option KeyEnd := none
  /-- The letters that say how the key is compared. -/
  letters : List Char := []
  deriving Repr

namespace SortKey

/-- Reads an end of a key; tells what follows. -/
def readEnd (cs : List Char) (character : Nat) : Except String (KeyEnd × List Char) :=
  let digits := cs.takeWhile Char.isDigit
  let field := Text.digitsValue digits
  let rest := cs.drop digits.length
  if digits.isEmpty then
    .error ("invalid number at field start: invalid count at start of "
      ++ quoted (String.ofList cs))
  else if field = 0 then
    .error ("field number is zero: invalid field specification " ++ quoted (String.ofList cs))
  else
    match rest with
    | '.' :: rest =>
      let digits := rest.takeWhile Char.isDigit
      .ok (⟨field, Text.digitsValue digits⟩, rest.drop digits.length)
    | rest => .ok (⟨field, character⟩, rest)

/-- Reads a key. -/
def read (text : String) : Except String SortKey := do
  let (first, rest) ← readEnd text.toList 1
  let letters := rest.takeWhile Char.isAlpha
  match rest.drop letters.length with
  | [] => .ok { first, letters }
  | ',' :: rest =>
    let (last, rest) ← readEnd rest 0
    if rest.all Char.isAlpha then .ok { first, last? := some last, letters := letters ++ rest }
    else .error ("stray character in field spec: invalid field specification " ++ quoted text)
  | _ => .error ("stray character in field spec: invalid field specification " ++ quoted text)

/-- The places at which the fields of a line start and end. -/
def fieldsOf (mark? : Option Char) (text : List Char) : List (Nat × Nat) :=
  let parts := match mark? with
    | some mark => (text.splitBy fun a _ => a != mark).map List.length
    | none => (text.splitBy fun a b => TextOrder.isBlank a || !TextOrder.isBlank b).map List.length
  let step (s : List (Nat × Nat) × Nat) (length : Nat) : List (Nat × Nat) × Nat :=
    ((s.2, s.2 + length) :: s.1, s.2 + length)
  let fields := (parts.foldl step ([], 0)).1.reverse
  match mark? with
  | some mark =>
    fields.map fun (low, high) =>
      if text[high - 1]? == some mark then (low, high - 1) else (low, high)
  | none => fields

/-- The place behind blanks. -/
def behindBlanks (line : List Char) (place : Nat) : Nat :=
  place + ((line.drop place).takeWhile TextOrder.isBlank).length

/-- The part of a line that a key means. -/
def part (k : SortKey) (mark? : Option Char) (line : List Char) : List Char :=
  let fields := fieldsOf mark? line
  let low := match fields[k.first.field - 1]? with
    | none => line.length
    | some (low, _) =>
      (if k.letters.contains 'b' then behindBlanks line low else low) + (k.first.character - 1)
  let high := match k.last? with
    | none => line.length
    | some last =>
      match fields[last.field - 1]? with
      | none => line.length
      | some (start, finish) =>
        if last.character = 0 then finish
        else (if k.letters.contains 'b' then behindBlanks line start else start) + last.character
  (line.take high).drop low

/-- A part as it is compared. -/
def prepared (k : SortKey) (cs : List Char) : List Char :=
  let cs := if k.letters.contains 'b' then cs.dropWhile TextOrder.isBlank else cs
  let cs := if k.letters.contains 'd' then
      cs.filter fun c => c.isAlphanum || c == ' ' || c == '\t' else cs
  let cs := if k.letters.contains 'i' then cs.filter fun c => ' ' ≤ c && c ≤ '~' else cs
  if k.letters.contains 'f' then cs.map Char.toUpper else cs

/-- Compares lines by a key. -/
def order (k : SortKey) (mark? : Option Char) (a b : List Char) : Ordering :=
  let o := (k.letters.findSome? TextOrder.ofLetter?).getD .plain
  let found := o.order (k.prepared (k.part mark? a)) (k.prepared (k.part mark? b))
  if k.letters.contains 'r' then found.swap else found

end SortKey

/-! ## Sorting -/

/-- How lines are sorted. -/
structure Sorting where
  keys : List SortKey
  mark? : Option Char
  /-- Lines that are the same by their keys stay as they are. -/
  stable : Bool
  /-- Of such lines only the first is kept. -/
  unique : Bool
  /-- The order of whole lines is turned around. -/
  reversed : Bool

namespace Sorting

/-- Compares lines by their keys. -/
def byKeys (s : Sorting) (a b : List Char) : Ordering :=
  s.keys.foldl (fun found k => found.then (k.order s.mark? a b)) .eq

/-- Compares lines. -/
def order (s : Sorting) (a b : List Char) : Ordering :=
  let found := s.byKeys a b
  if s.stable || s.unique then found
  else
    let whole := compare a b
    found.then (if s.reversed then whole.swap else whole)

/-- Whether a line may stand in front of another. -/
def before (s : Sorting) (a b : List Char) : Bool := s.order a b != .gt

/-- Sorted lines; of those that are the same by their keys perhaps only the first. -/
def finish (s : Sorting) (lines : List (List Char)) : List (List Char) :=
  if s.unique then
    (lines.foldl (fun (kept : List (List Char)) line =>
      match kept with
      | last :: _ => if s.byKeys last line == .eq then kept else line :: kept
      | [] => [line]) []).reverse
  else lines

/-- The number and the text of the first line that is out of order, if there is one. -/
def disorder? (s : Sorting) (lines : List (List Char)) : Option (Nat × List Char) :=
  (((lines.zip (lines.drop 1)).zipIdx 2).find? fun ((a, b), _) =>
    if s.unique then s.byKeys a b != .lt else s.order a b == .gt).map fun ((_, b), n) => (n, b)

end Sorting

/-- The letters that say how keys are compared. -/
def sortLetters : List Char := ['b', 'd', 'f', 'g', 'h', 'i', 'M', 'n', 'r', 'V']

/-- How options ask to sort. -/
def sortingOf (g : Given) : Except String Sorting := do
  let letters := sortLetters.filter fun c => g.has (String.singleton c)
  let keys ← (g.all "k").mapM SortKey.read
  let keys := keys.map fun (k : SortKey) => if k.letters.isEmpty then { k with letters } else k
  let mark? ← match g.last? "t" with
    | none => .ok none
    | some text =>
      match text.toList with
      | [c] => .ok (some c)
      | ['\\', '0'] => .ok (some '\x00')
      | [] => .error "empty tab"
      | _ => .error ("multi-character tab " ++ quoted text)
  .ok {
    keys := if keys.isEmpty then [{ letters }] else keys
    mark?
    stable := g.has "s"
    unique := g.has "u"
    reversed := letters.contains 'r' }

/-- The lines of files, or why a file cannot be read. -/
def linesOfAll : List String → Running (Except String (List (List (List Char))))
  | [] => pure (.ok [])
  | path :: rest => do
    match ← textOf path with
    | .error .isDirectory => pure (.error ("read failed: " ++ shown path ++ ": Is a directory"))
    | .error fault => pure (.error ("cannot read: " ++ shown path ++ ": " ++ fault.reason))
    | .ok text => do
      let lines := (linesOf text).1.map String.toList
      return (lines :: ·) <$> (← linesOfAll rest)

/-- Prints lines, or puts them into a file. -/
def putLines (path? : Option String) (lines : List (List Char)) : Running Nat := do
  let text := String.join (lines.map fun line => String.ofList line ++ "\n")
  match path? with
  | none => do
    print text
    pure 0
  | some path => do
    let m ← get
    match m.writable path with
    | .ok place => do
      set (m.fill place (rawBytes text.toList))
      pure 0
    | .error fault => fail ("open failed: " ++ path ++ ": " ++ fault.reason) 2

/-- Sorts lines. -/
def sort : Utility := fun _ =>
  withStyle { misused := 2 }
    ((sortLetters.map fun c => letter c) ++
      [taking 'k' ["key"], taking 't' ["field-separator"], taking 'o' ["output"],
       letter 'u' ["unique"], letter 's' ["stable"], letter 'c' ["check"], letter 'C',
       letter 'm' ["merge"], letter 'z' ["zero-terminated"], taking 'S' ["buffer-size"],
       taking 'T' ["temporary-directory"],
       { name := "n", words := ["numeric-sort"] }, { name := "r", words := ["reverse"] },
       { name := "f", words := ["ignore-case"] }, { name := "V", words := ["version-sort"] }])
    fun g => do
      match sortingOf g with
      | .error message => fail message 2
      | .ok s =>
        let paths := if g.operands.isEmpty then ["-"] else g.operands
        let checks := g.has "c" || g.has "C"
        if checks && 1 < paths.length then
          fail ("extra operand " ++ quoted (paths.getD 1 "") ++ " not allowed with -c") 2
        else
          match ← linesOfAll paths with
          | .error message => fail message 2
          | .ok groups =>
            if checks then
              match s.disorder? groups.flatten with
              | none => pure 0
              | some (n, line) =>
                if g.has "c" then
                  warn ((paths.head?.getD "-") ++ ":" ++ toString n ++ ": disorder: "
                    ++ String.ofList line)
                pure 1
            else
              let lines := if g.has "m" then groups.foldl (fun a b => List.merge a b s.before) []
                else groups.flatten.mergeSort s.before
              putLines (g.last? "o") (s.finish lines)

/-! ## Neighbours -/

/-- How neighbouring lines are compared. -/
structure Sameness where
  folds : Bool
  fields : Nat
  characters : Nat
  most? : Option Nat

/-- A text without so many fields at its front. -/
def withoutFields : Nat → List Char → List Char
  | 0, cs => cs
  | n + 1, cs =>
    withoutFields n ((cs.dropWhile TextOrder.isBlank).dropWhile fun c => !TextOrder.isBlank c)

/-- The part of a line that is compared. -/
def Sameness.part (s : Sameness) (line : String) : List Char :=
  let cs := (withoutFields s.fields line.toList).drop s.characters
  let cs := match s.most? with
    | some most => cs.take most
    | none => cs
  if s.folds then cs.map Char.toLower else cs

/-- Lines that are the same, side by side. -/
def Sameness.groups (s : Sameness) (lines : List String) : List (List String) :=
  lines.splitBy fun a b => s.part a == s.part b

/-- Shows lines without those that are the same as the one before. -/
def uniq : Utility := fun _ =>
  withOptions [letter 'c' ["count"], letter 'd' ["repeated"], letter 'D', letter 'u' ["unique"],
    letter 'i' ["ignore-case"], taking 'f' ["skip-fields"], taking 's' ["skip-chars"],
    taking 'w' ["check-chars"], letter 'z' ["zero-terminated"]] fun g => do
      match g.operands with
      | _ :: _ :: extra :: _ => misuse ("extra operand " ++ quoted extra)
      | operands =>
        let path := operands.head?.getD "-"
        match ← textOf path with
        | .error .isDirectory => fail ("error reading " ++ quoted path)
        | .error fault => fail (shown path ++ ": " ++ fault.reason)
        | .ok text => do
          let count (name : String) : Nat := ((g.last? name).bind String.toNat?).getD 0
          let s : Sameness :=
            ⟨g.has "i", count "f", count "s", (g.last? "w").bind String.toNat?⟩
          let groups := s.groups (linesOf text).1
          let kept := groups.filter fun group =>
            (!(g.has "d" || g.has "D") || 1 < group.length) && (!g.has "u" || group.length = 1)
          let line (group : List String) : List String :=
            if g.has "D" then group
            else
              let first := group.head?.getD ""
              let digits := toString group.length
              let space := String.ofList (List.replicate (7 - digits.length) ' ')
              [if g.has "c" then space ++ digits ++ " " ++ first else first]
          let lines := (kept.flatMap line).map String.toList
          match operands with
          | [_, goal] => putLines (if goal = "-" then none else some goal) lines
          | _ => putLines none lines

/-! ## Two sorted texts -/

/-- The columns of two sorted lists: what is in the first, in the second, or in both. -/
def columnsOf : List String → List String → List (Nat × String)
  | [], [] => []
  | a :: as, [] => (1, a) :: columnsOf as []
  | [], b :: bs => (2, b) :: columnsOf [] bs
  | a :: as, b :: bs =>
    if a = b then (3, a) :: columnsOf as bs
    else if a < b then (1, a) :: columnsOf as (b :: bs)
    else (2, b) :: columnsOf (a :: as) bs
termination_by a b => a.length + b.length

/-- Compares the lines of two sorted texts. -/
def comm : Utility := fun _ =>
  withOptions [letter '1', letter '2', letter '3', letter 'z' ["zero-terminated"],
    { name := "output-delimiter", words := ["output-delimiter"], arity := .required },
    { name := "check-order", words := ["check-order"] },
    { name := "nocheck-order", words := ["nocheck-order"] }] fun g => do
      match g.operands with
      | [] => misuse "missing operand"
      | [one] => misuse ("missing operand after " ++ quoted one)
      | first :: second :: _ =>
        match ← textOf first with
        | .error fault => fail (shown first ++ ": " ++ fault.reason)
        | .ok a =>
          match ← textOf second with
          | .error fault => fail (shown second ++ ": " ++ fault.reason)
          | .ok b => do
            let mark := (g.last? "output-delimiter").getD "\t"
            let hides (n : Nat) : Bool := g.has (toString n)
            let gap (n : Nat) : String :=
              String.join (((List.range n).filter fun k => 0 < k && !hides k).map fun _ => mark)
            printLines (((columnsOf (linesOf a).1 (linesOf b).1).filter fun (n, _) => !hides n).map
              fun (n, line) => gap n ++ line)
            pure 0

end SignatureAudit.Emulation.Utility
