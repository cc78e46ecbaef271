import SignatureAudit.Emulation.Shell.Format
import SignatureAudit.Emulation.Utility.Basic

/-!
# Programs that pass text on

The programs that show texts whole or in part, count in them, and put them together.
-/

namespace SignatureAudit.Emulation.Utility

open Shell (Running Machine Utility)
open Shell.Running (print printLine)

/-! ## Whole texts -/

/-- A character in a form that can be seen. -/
def visible (tabs : Bool) (c : Char) : String :=
  let n := c.toNat
  if c == '\n' || (c == '\t' && !tabs) then String.singleton c
  else
    let low (n : Nat) : String :=
      if n < 32 then "^" ++ String.singleton (Char.ofNat (n + 64))
      else if n = 127 then "^?" else String.singleton (Char.ofNat n)
    if n < 128 then low n else "M-" ++ low (n - 128)

/-- How a line is numbered: so many places, and a tab. -/
def numberedLine (n : Nat) (line : String) : String :=
  let digits := toString n
  String.ofList (List.replicate (6 - digits.length) ' ') ++ digits ++ "\t" ++ line

/-- The lines of a text as they are shown: squeezed, numbered, and with marks. The first number is
the one of the next line. -/
def decorate (g : Given) (text : String) : String :=
  let (lines, whole) := linesOf text
  let numbers := g.has "n" || g.has "b"
  let step (s : Array String × Nat × Nat) (line : String) : Array String × Nat × Nat :=
    let (out, number, blanks) := s
    if line = "" && g.has "s" && 1 ≤ blanks then s
    else
      let shown := String.join (line.toList.map (visible (g.has "T")))
      let shown := if g.has "v" || g.has "T" then
        if g.has "v" then shown else String.join (line.toList.map fun c =>
          if c == '\t' then "^I" else String.singleton c)
        else line
      let marked := if g.has "E" then shown ++ "$" else shown
      let counts := numbers && !(g.has "b" && line = "")
      (out.push (if counts then numberedLine number marked else marked),
        if counts then number + 1 else number, if line = "" then blanks + 1 else 0)
  let (out, _, _) := lines.foldl step (#[], 1, 0)
  let joined := "\n".intercalate out.toList
  if lines.isEmpty then ""
  else if whole then joined ++ "\n"
  else if g.has "E" then String.ofList joined.toList.dropLast else joined

/-- Shows texts one after the other. -/
def cat : Utility := fun _ =>
  withOptions [letter 'n' ["number"], letter 'b' ["number-nonblank"], letter 'E' ["show-ends"],
    letter 's' ["squeeze-blank"], letter 'T' ["show-tabs"], letter 'v' ["show-nonprinting"],
    letter 'A' ["show-all"], letter 'e', letter 't', letter 'u'] fun g => do
      let also (name : String) (names : List String) (g : Given) : Given :=
        if g.has name then names.foldl (fun g n => g.withOption n "") g else g
      let g := also "A" ["v", "E", "T"] (also "e" ["v", "E"] (also "t" ["v", "T"] g))
      if ["n", "b", "E", "s", "T", "v"].all fun name => !g.has name then
        eachInput g.operands fun _ text => print text
      else
        let mut texts := ""
        let mut outcome := 0
        for path in if g.operands.isEmpty then ["-"] else g.operands do
          match ← textOf path with
          | .ok text => texts := texts ++ text
          | .error fault =>
            warn (shown path ++ ": " ++ fault.reason)
            outcome := 1
        print (decorate g texts)
        pure outcome

/-- Passes its input on to the output and to files. -/
def tee : Utility := fun _ =>
  withOptions [letter 'a' ["append"], letter 'i', letter 'p'] fun g => do
    let text ← Running.readAll 0
    print text
    let mut outcome := 0
    for path in g.operands do
      let m ← get
      match m.writable path with
      | .ok place =>
        let new := rawBytes text.toList
        match m.files.get? place, g.has "a" with
        | some (.file old _), true => set (m.fill place (old ++ new))
        | _, _ => set (m.fill place new)
      | .error fault =>
        warn (shown path ++ ": " ++ fault.reason)
        outcome := 1
    pure outcome

/-! ## Parts of texts -/

/-- A number with a letter for a multiple behind it. -/
def amount? (text : String) : Option Nat := do
  let digits := text.toList.takeWhile Char.isDigit
  let n ← (String.ofList digits).toNat?
  match String.ofList (text.toList.drop digits.length) with
  | "" => some n
  | "b" => some (n * 512)
  | "k" | "K" | "KiB" => some (n * 1024)
  | "kB" | "KB" => some (n * 1000)
  | "M" | "MiB" | "m" => some (n * 1048576)
  | "MB" => some (n * 1000000)
  | _ => none

/-- A part of a text: its first or last lines or characters, or all others. -/
structure Portion where
  characters : Bool
  count : Nat
  /-- What is counted is left out. -/
  others : Bool

namespace Portion

/-- The units of a text. -/
def units (p : Portion) (text : String) : List String :=
  if p.characters then text.toList.map String.singleton
  else
    let (lines, whole) := linesOf text
    if whole then lines.map (· ++ "\n")
    else (lines.dropLast.map (· ++ "\n")) ++ [lines.getLast?.getD ""]

/-- The portion at the front of a text. -/
def front (p : Portion) (text : String) : String :=
  let units := p.units text
  String.join (units.take (if p.others then units.length - p.count else p.count))

/-- The portion at the end of a text; without its last units, if others are meant, it starts at the
unit of the number. -/
def back (p : Portion) (text : String) : String :=
  let units := p.units text
  String.join (units.drop (if p.others then p.count - 1 else units.length - p.count))

end Portion

/-- Options of one number in front of other arguments, as they were written in old times. -/
def withCount (signs : List Char) (args : List String) : List String :=
  match args with
  | first :: rest =>
    match first.toList with
    | sign :: c :: cs =>
      if signs.contains sign && c.isDigit && cs.all Char.isDigit then
        let digits := String.ofList (c :: cs)
        "-n" :: (if sign == '+' then "+" ++ digits else digits) :: rest
      else args
    | _ => args
  | [] => []

/-- The portion that options ask for: the sign that means the other units comes first. -/
def portionOf (sign : Char) (g : Given) : Except String Portion :=
  match g.options.reverse.find? fun (name, _) => name = "n" || name = "c" with
  | none => .ok ⟨false, 10, false⟩
  | some (name, value) =>
    let (marked, digits) := match value.toList with
      | c :: cs => if c == '-' || c == '+' then (some c, String.ofList cs) else (none, value)
      | [] => (none, value)
    match amount? digits with
    | some count => .ok ⟨name = "c", count, marked == some sign⟩
    | none =>
      .error ("invalid number of " ++ (if name = "c" then "bytes" else "lines") ++ ": "
        ++ quoted value)

/-- Shows portions of texts, each below its name if there are more than one. -/
def showPortions (g : Given) (part : String → String) (ofInput : Running String) : Running Nat := do
  let paths := if g.operands.isEmpty then ["-"] else g.operands
  let headers := !g.has "q" && (g.has "v" || 1 < paths.length)
  let mut outcome := 0
  let mut first := true
  for path in paths do
    let text ← if path = "-" then Except.ok <$> ofInput else (·.map part) <$> textOf path
    match text with
    | .ok text =>
      if headers then
        let name := if path = "-" then "standard input" else path
        print ((if first then "" else "\n") ++ "==> " ++ name ++ " <==\n")
      first := false
      print text
    | .error .isDirectory =>
      if headers then
        print ((if first then "" else "\n") ++ "==> " ++ path ++ " <==\n")
      first := false
      warn ("error reading " ++ quoted path ++ ": " ++ FileFault.isDirectory.reason)
      outcome := 1
    | .error fault =>
      warn ("cannot open " ++ quoted path ++ " for reading: " ++ fault.reason)
      outcome := 1
  pure outcome

/-- The options of programs that show portions. -/
def portionOptions : List OptionRule :=
  [taking 'n' ["lines"], taking 'c' ["bytes"], letter 'q' ["quiet", "silent"],
   letter 'v' ["verbose"], letter 'z' ["zero-terminated"], letter 'f' ["follow"], letter 'F',
   letter 'r']

/-- Shows the fronts of texts. A file that is the input is only read as far as it is shown. -/
def head : Utility := fun _ args =>
  withOptions portionOptions
    (fun g => do
      match portionOf '-' g with
      | .error message => fail message
      | .ok p =>
        showPortions g p.front do
          match (← get).channel? 0 with
          | some (.file ..) =>
            Running.read 0 fun m channel => (p.front (String.ofList (m.unread channel))).toList
          | _ => do pure (p.front (← Running.readAll 0)))
    (withCount ['-'] args)

/-- Shows the ends of texts. It waits for ever for more text if that is asked for. -/
def tail : Utility := fun _ args =>
  withOptions portionOptions
    (fun g => do
      match portionOf '+' g with
      | .error message => fail message
      | .ok p => do
        let outcome ← showPortions g p.back do pure (p.back (← Running.readAll 0))
        if outcome = 0 && (g.has "f" || g.has "F") then throw .late
        pure outcome)
    (withCount ['-', '+'] args)

/-! ## Counts -/

/-- What can be counted in a text. -/
structure Counts where
  lines : Nat := 0
  words : Nat := 0
  bytes : Nat := 0
  longest : Nat := 0

namespace Counts

/-- A character between words. -/
def isSpace (c : Char) : Bool := c == ' ' || (c.toNat > 8 && c.toNat < 14)

/-- The counts of a text. -/
def ofText (text : String) : Counts :=
  let cs := text.toList
  let words := (cs.foldl (fun (n, inside) c =>
    if isSpace c then (n, false) else if inside then (n, true) else (n + 1, true))
    ((0 : Nat), false)).1
  { lines := (cs.filter (· == '\n')).length, words, bytes := cs.length
    longest := ((linesOf text).1.map String.length).foldl max 0 }

/-- The counts of two texts together. -/
def add (a b : Counts) : Counts :=
  ⟨a.lines + b.lines, a.words + b.words, a.bytes + b.bytes, max a.longest b.longest⟩

/-- The counts that are asked for. -/
def asked (g : Given) (c : Counts) : List Nat :=
  let all := ["l", "w", "c", "m", "L"].all fun name => !g.has name
  (if all || g.has "l" then [c.lines] else []) ++ (if all || g.has "w" then [c.words] else [])
    ++ (if g.has "m" then [c.bytes] else []) ++ (if all || g.has "c" then [c.bytes] else [])
    ++ if g.has "L" then [c.longest] else []

/-- Counts in columns, and a name. -/
def row (width : Nat) (counts : List Nat) (name : String) : String :=
  let columns := counts.map fun n =>
    let digits := toString n
    String.ofList (List.replicate (width - digits.length) ' ') ++ digits
  " ".intercalate columns ++ if name = "" then "" else " " ++ name

end Counts

/-- The number of bytes of a regular file. -/
def sizeOf? (path : String) : Running (Option (Option Nat)) := do
  let m ← get
  if path = "-" then
    match m.channel? 0 with
    | some (.file place ..) =>
      match m.files.get? place with
      | some (.file bytes _) => pure (some (some bytes.size))
      | _ => pure (some none)
    | _ => pure (some none)
  else
    match m.place path with
    | .error _ => pure none
    | .ok place =>
      match m.files.get? place with
      | some (.file bytes _) =>
        pure (some (if place.head? = some "dev" then none else some bytes.size))
      | _ => pure (some none)

/-- Counts lines, words and characters. -/
def wc : Utility := fun _ =>
  withOptions [letter 'l' ["lines"], letter 'w' ["words"], letter 'c' ["bytes"],
    letter 'm' ["chars"], letter 'L' ["max-line-length"]] fun g => do
      let paths := if g.operands.isEmpty then ["-"] else g.operands
      let columns := (Counts.asked g {}).length
      let mut total := 0
      let mut least := 1
      for path in paths do
        match ← sizeOf? path with
        | some (some size) => total := total + size
        | some none => least := 7
        | none => pure ()
      let width := if paths.length = 1 && columns = 1 then 1
        else max least (toString total).length
      let mut sum : Counts := {}
      let mut outcome := 0
      for path in paths do
        let name := if g.operands.isEmpty then "" else path
        match ← textOf path with
        | .ok text =>
          let counts := Counts.ofText text
          sum := sum.add counts
          printLine (Counts.row width (counts.asked g) name)
        | .error fault =>
          warn (shown path ++ ": " ++ fault.reason)
          outcome := 1
          if fault = .isDirectory then printLine (Counts.row width (Counts.asked g {}) name)
      if 1 < paths.length then printLine (Counts.row width (sum.asked g) "total")
      pure outcome

/-! ## Other orders -/

/-- Shows lines in the opposite order. -/
def tac : Utility := fun _ =>
  withOptions [letter 'b', letter 'r', taking 's' ["separator"]] fun g =>
    eachInput g.operands fun _ text => do
      let units := Portion.units ⟨false, 0, false⟩ text
      print (String.join units.reverse)

/-- Shows lines backwards. -/
def rev : Utility := fun _ =>
  withOptions [] fun g =>
    eachInput g.operands fun _ text => do
      let (lines, whole) := linesOf text
      let turned := lines.map fun line => String.ofList line.toList.reverse
      print ("\n".intercalate turned ++ if whole then "\n" else "")

/-- Numbers lines. -/
def nl : Utility := fun _ =>
  withOptions [taking 'b' ["body-numbering"], taking 'w' ["number-width"],
    taking 's' ["number-separator"], taking 'v' ["starting-line-number"],
    taking 'i' ["line-increment"], taking 'n' ["number-format"]] fun g => do
      let width := ((g.last? "w").bind String.toNat?).getD 6
      let separator := (g.last? "s").getD "\t"
      let all := g.last? "b" = some "a"
      let none := g.last? "b" = some "n"
      let start := ((g.last? "v").bind String.toNat?).getD 1
      let step := ((g.last? "i").bind String.toNat?).getD 1
      let format (n : Nat) : String :=
        let digits := toString n
        let space (c : Char) : String := String.ofList (List.replicate (width - digits.length) c)
        match g.last? "n" with
        | some "ln" => digits ++ space ' '
        | some "rz" => space '0' ++ digits
        | _ => space ' ' ++ digits
      let (lines, outcome) ← allLines g.operands
      let numbered := (lines.foldl (fun (out, n) line =>
        if (line = "" && !all) || none then
          let gap := width + separator.length
          ((out : Array String).push (String.ofList (List.replicate gap ' ') ++ line), n)
        else (out.push (format n ++ separator ++ line), n + step)) ((#[] : Array String), start)).1
      printLines numbered.toList
      pure outcome

/-- Puts the lines of texts beside each other, or those of each text into one line. -/
def paste : Utility := fun _ =>
  withOptions [taking 'd' ["delimiters"], letter 's' ["serial"]] fun g => do
    let (text, _) := Shell.unescape ⟨true⟩ ((g.last? "d").getD "\t")
    let marks := text.toList
    let mark (n : Nat) : String :=
      match marks[n % max 1 marks.length]? with
      | some c => String.singleton c
      | none => ""
    let join (cells : List String) : String :=
      String.join ((cells.zipIdx).map fun (cell, n) => if n = 0 then cell else mark (n - 1) ++ cell)
    let paths := if g.operands.isEmpty then ["-"] else g.operands
    let inputs := (paths.filter (· = "-")).length
    let mut columns : Array (Array String) := #[]
    let (shared, _) := linesOf (← if 0 < inputs then Running.readAll 0 else pure "")
    let mut seen := 0
    for path in paths do
      if path = "-" then
        let first := seen
        let own := if g.has "s" then (if first = 0 then shared else [])
          else (shared.zipIdx.filter fun (_, n) => n % inputs = first).map (·.1)
        columns := columns.push own.toArray
        seen := seen + 1
      else
        match ← textOf path with
        | .ok text => columns := columns.push (linesOf text).1.toArray
        | .error fault =>
          return (← fail (shown path ++ ": " ++ fault.reason))
    if g.has "s" then printLines (columns.toList.map fun column => join column.toList)
    else
      let height := columns.foldl (fun n column => max n column.size) 0
      printLines ((List.range height).map fun row =>
        join (columns.toList.map fun column => column.getD row ""))
    pure 0

/-- Breaks long lines. -/
def fold : Utility := fun _ args =>
  withOptions [taking 'w' ["width"], letter 's' ["spaces"], letter 'b' ["bytes"]]
    (fun g => do
      let width := max 1 (((g.last? "w").bind String.toNat?).getD 80)
      let step (s : List (List Char) × List Char) (c : Char) : List (List Char) × List Char :=
        let (done, current) := s
        if current.length < width then (done, c :: current)
        else if g.has "s" && current.contains ' ' then
          let rest := current.takeWhile (· ≠ ' ')
          (current.drop rest.length :: done, c :: rest)
        else (current :: done, [c])
      let broken (line : String) : List String :=
        let (done, current) := line.toList.foldl step ([], [])
        ((current :: done).reverse).map fun part => String.ofList part.reverse
      eachInput g.operands fun _ text => do
        let (lines, whole) := linesOf text
        print ("\n".intercalate (lines.flatMap broken) ++ if whole then "\n" else ""))
    (match args with
      | first :: rest =>
        match first.toList with
        | '-' :: c :: cs =>
          if c.isDigit then "-w" :: String.ofList (c :: cs) :: rest else args
        | _ => args
      | [] => [])

/-- A line without tabs: blanks go up to the next column of a stop. -/
def expanded (stop : Nat) (line : String) : String :=
  let step (s : List Char × Nat) (c : Char) : List Char × Nat :=
    if c == '\t' then
      let count := stop - s.2 % stop
      (List.replicate count ' ' ++ s.1, s.2 + count)
    else (c :: s.1, s.2 + 1)
  String.ofList (line.toList.foldl step ([], 0)).1.reverse

/-- Replaces tabs by blanks. -/
def expand : Utility := fun _ =>
  withOptions [taking 't' ["tabs"], letter 'i' ["initial"]] fun g => do
    let stop := max 1 (((g.last? "t").bind String.toNat?).getD 8)
    eachInput g.operands fun _ text => do
      let (lines, whole) := linesOf text
      print ("\n".intercalate (lines.map (expanded stop)) ++ if whole then "\n" else "")

end SignatureAudit.Emulation.Utility
