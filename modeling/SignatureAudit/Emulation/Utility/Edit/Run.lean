import SignatureAudit.Emulation.Utility.Basic
import SignatureAudit.Emulation.Utility.Edit.Reader

/-!
# Editing lines

An editor holds the current line and another text, and knows the lines to come. It follows a script
once for each line, and what it prints is collected. The number of commands that it follows is
limited; a script that is then not at its end counts as one that never ends.
-/

namespace SignatureAudit.Emulation.Utility.Edit

/-- A line of the input. -/
structure InputLine where
  text : String
  /-- Whether a newline ends it. -/
  whole : Bool
  /-- The file that it comes from. -/
  file : String
  deriving Repr

/-- Text that is collected. -/
structure Collected where
  parts : Array String := #[]
  /-- The last line has no newline yet. -/
  isOpen : Bool := false
  deriving Repr

namespace Collected

/-- Adds text. -/
def add (c : Collected) (text : String) : Collected :=
  if text = "" then c
  else { parts := (if c.isOpen then c.parts.push "\n" else c.parts).push text }

/-- Adds a line, perhaps without its newline. -/
def addLine (c : Collected) (line : String) (whole : Bool) : Collected :=
  let c := { c with parts := if c.isOpen then c.parts.push "\n" else c.parts }
  { parts := c.parts.push (if whole then line ++ "\n" else line), isOpen := !whole }

/-- All that was collected. -/
def text (c : Collected) : String := String.join c.parts.toList

end Collected

/-- Where the range of a command is. -/
inductive RangeState
  /-- It goes up to a line. -/
  | upTo (number : Nat)
  /-- It goes on until its second address is met. -/
  | open
  | closed
  deriving DecidableEq, Repr

/-- What is printed behind the current line. -/
inductive Later
  | text (text : String)
  | file (path : String)
  deriving Repr

/-- An editor. -/
structure Editor where
  line : String := ""
  other : String := ""
  /-- Whether a newline ends the current line. -/
  whole : Bool := true
  file : String := "-"
  number : Nat := 0
  ahead : List InputLine := []
  output : Collected := {}
  /-- What is written to files. -/
  files : List (String × Collected) := []
  later : List Later := []
  /-- How many lines of files have been taken one by one. -/
  taken : List (String × Nat) := []
  /-- Whether a substitution was made since the line was read. -/
  made : Bool := false
  ranges : List (Nat × RangeState) := []
  regex? : Option Regex := none

/-- What an editor cannot change. -/
structure Workplace where
  commands : Array Command
  /-- Lines are not printed unless a command asks for it. -/
  quiet : Bool
  /-- The texts of files. -/
  text? : String → Option String

/-- Where an editor goes on. -/
inductive Flow
  | goes (place : Nat)
  | ends (prints : Bool)
  /-- The script starts again with what is left of the line. -/
  | again
  | stops (status : Nat) (prints : Bool)
  deriving Repr

namespace Editor

/-! ## Selecting lines -/

/-- The expression of a pattern, which is then the last one. -/
def regexOf? (e : Editor) (p : LinePattern) : Option Regex := p.regex? <|> e.regex?

/-- How the current line is read. -/
def reading (e : Editor) (p : LinePattern) : Regex.Reading :=
  { text := e.line.toList.toArray, folds := p.folds, byLines := p.byLines }

/-- Whether the current line is the last one. -/
def isLast (e : Editor) : Bool := e.ahead.isEmpty

/-- Whether an address means the current line. -/
def meets (e : Editor) (a : Address) : Bool × Editor :=
  match a with
  | .line n => (e.number = n, e)
  | .every first step =>
    (if step = 0 then e.number = first
      else first ≤ e.number && (e.number - first) % step = 0, e)
  | .last => (e.isLast, e)
  | .fitting p =>
    let regex? := e.regexOf? p
    (regex?.any (Regex.occurs (e.reading p)), { e with regex? })

/-- Remembers where the range of a command is. -/
def withRange (e : Editor) (place : Nat) (state : RangeState) : Editor :=
  { e with ranges := (place, state) :: e.ranges.filter (·.1 ≠ place) }

/-- Begins a range at the current line. -/
def begin (e : Editor) (place : Nat) (finish : RangeEnd) : Editor :=
  let upTo (n : Nat) : Editor :=
    if n ≤ e.number then e.withRange place .closed else e.withRange place (.upTo n)
  match finish with
  | .address (.line n) => upTo n
  | .count n => upTo (e.number + n)
  | .multiple n => upTo (if n = 0 then e.number else (e.number + n - 1) / n * n)
  | .address _ => e.withRange place .open

/-- Whether a range has the current line. -/
def inRange (e : Editor) (place : Nat) (s : Selection) (first : Address) (finish : RangeEnd) :
    Bool × Editor :=
  let state := (e.ranges.lookup place).getD (if s.fromStart && e.number ≤ 1 then .open else .closed)
  match state, finish with
  | .upTo n, _ =>
    if n ≤ e.number then (e.number = n, e.withRange place .closed) else (true, e)
  | .open, .address finish =>
    let (met, e) := e.meets finish
    (true, e.withRange place (if met then .closed else .open))
  | _, _ =>
    let (met, e) := e.meets first
    (met, if met then e.begin place finish else e)

/-- Whether a command at a place is done for the current line. -/
def selects (e : Editor) (place : Nat) (s : Selection) : Bool × Editor :=
  let (found, e) := match s.first?, s.until? with
    | none, _ => (true, e)
    | some first, none => e.meets first
    | some first, some finish => e.inRange place s first finish
  (found != s.negated, e)

/-! ## Substitutions -/

/-- A letter in another way. -/
def cased (casing : Casing) (c : Char) : Char :=
  match casing with
  | .asIs => c
  | .upper => c.toUpper
  | .lower => c.toLower

/-- The text of a replacement for a part of a line. -/
def replacementText (r : Regex.Reading) (f : Found) (parts : List Replacement) : List Char :=
  let put (s : List Char × Casing × Option Casing) (c : Char) :
      List Char × Casing × Option Casing :=
    let (out, casing, next?) := s
    (cased (next?.getD casing) c :: out, casing, none)
  let step (s : List Char × Casing × Option Casing) (part : Replacement) :
      List Char × Casing × Option Casing :=
    match part with
    | .text c => put s c
    | .casing casing => (s.1, casing, s.2.2)
    | .nextCasing casing => (s.1, s.2.1, some casing)
    | .group n =>
      let range? := if n = 0 then some (f.start, f.finish) else f.groups.lookup n
      match range? with
      | some (low, high) => (r.text.extract low high).toList.foldl put s
      | none => s
  (parts.foldl step ([], .asIs, none)).1.reverse

/-- Makes a substitution in the current line; tells whether something was replaced. -/
def substitute (e : Editor) (s : Substitution) : Bool × Editor :=
  match e.regexOf? s.pattern with
  | none => (false, e)
  | some regex =>
    let r := e.reading s.pattern
    let found := (Regex.all r regex).drop (s.place - 1)
    let found := if s.everywhere then found else found.take 1
    if found.isEmpty then (false, { e with regex? := some regex })
    else
      let step (t : List Char × Nat) (f : Found) : List Char × Nat :=
        let before := (r.text.extract t.2 f.start).toList
        ((replacementText r f s.replacement).reverse ++ (before.reverse ++ t.1), f.finish)
      let (out, behind) := found.foldl step ([], 0)
      let rest := (r.text.extract behind r.text.size).toList
      (true, { e with
        line := String.ofList (out.reverse ++ rest), made := true, regex? := some regex })

/-! ## Printing -/

/-- Prints a text. -/
def put (e : Editor) (text : String) : Editor := { e with output := e.output.add text }

/-- Prints a line. -/
def putLine (e : Editor) (line : String) (whole : Bool := true) : Editor :=
  { e with output := e.output.addLine line whole }

/-- Prints the current line. -/
def printLine (e : Editor) : Editor := e.putLine e.line e.whole

/-- Writes a line to a file. -/
def writeLine (e : Editor) (path line : String) (whole : Bool) : Editor :=
  if path = "/dev/stdout" then e.putLine line whole
  else
    { e with files := e.files.map fun (name, c) =>
        (name, if name = path then c.addLine line whole else c) }

/-- Prints what was kept for the end of the line. -/
def flush (w : Workplace) (e : Editor) : Editor :=
  let e := e.later.foldl (fun e part =>
    match part with
    | .text text => e.put text
    | .file path =>
      match w.text? path with
      | some text =>
        let (lines, whole) := linesOf text
        let front := String.join (lines.dropLast.map (· ++ "\n"))
        if text = "" then e
        else if whole then e.put text
        else { e with output := (e.output.add front).addLine (lines.getLast?.getD "") false }
      | none => e) e
  { e with later := [] }

/-- A character in a form that can be seen. -/
def visible (c : Char) : String :=
  match c with
  | '\\' => "\\\\"
  | '\x07' => "\\a"
  | '\x08' => "\\b"
  | '\x0c' => "\\f"
  | '\n' => "\\n"
  | '\r' => "\\r"
  | '\t' => "\\t"
  | '\x0b' => "\\v"
  | c =>
    if ' ' ≤ c && c ≤ '~' then String.singleton c
    else
      let digits := Nat.toDigits 8 c.toNat
      "\\" ++ String.ofList (List.replicate (3 - digits.length) '0' ++ digits)

/-- A line in a form that can be seen, broken into parts that are not too long. -/
def visibleLine (line : String) : String :=
  let step (s : List String × Nat) (c : Char) : List String × Nat :=
    let text := visible c
    if 69 < s.2 + text.length then (text :: "\\\n" :: s.1, text.length)
    else (text :: s.1, s.2 + text.length)
  String.join (line.toList.foldl step ([], 0)).1.reverse ++ "$"

/-! ## Following a script -/

/-- Reads the next line. -/
def advance? (e : Editor) : Option Editor :=
  match e.ahead with
  | [] => none
  | next :: ahead => some { e with
      line := next.text, whole := next.whole, file := next.file, ahead, number := e.number + 1 }

/-- Does a command at a place. -/
def perform (w : Workplace) (e : Editor) (place : Nat) (action : Action) : Editor × Flow :=
  let on (e : Editor) : Editor × Flow := (e, .goes (place + 1))
  match action with
  | .block _ | .nothing => on e
  | .insert text => on (e.put text)
  | .append text => on { e with later := e.later ++ [.text text] }
  | .change text =>
    let goesOn := match e.ranges.lookup place with
      | some (.upTo _) | some .open => true
      | _ => false
    (if goesOn then e else e.put text, .ends false)
  | .jump goal => (e, .goes goal)
  | .jumpIf made goal =>
    let met := e.made == made
    ({ e with made := false }, .goes (if met then goal else place + 1))
  | .delete => (e, .ends false)
  | .deleteLine =>
    if e.line.toList.contains '\n' then
      let rest := (e.line.toList.dropWhile (· != '\n')).drop 1
      ({ e with line := String.ofList rest }, .again)
    else (e, .ends false)
  | .hold => on { e with other := e.line }
  | .holdMore => on { e with other := e.other ++ "\n" ++ e.line }
  | .fetch => on { e with line := e.other }
  | .fetchMore => on { e with line := e.line ++ "\n" ++ e.other }
  | .exchange => on { e with line := e.other, other := e.line }
  | .next =>
    if e.ahead.isEmpty then (e, .stops 0 true)
    else
      let e := flush w (if w.quiet then e else e.printLine)
      on ((e.advance?).getD e)
  | .nextMore =>
    if e.ahead.isEmpty then (e, .stops 0 true)
    else
      let before := e.line
      let e := flush w e
      let e := (e.advance?).getD e
      on { e with line := before ++ "\n" ++ e.line }
  | .print => on e.printLine
  | .printLine => on (e.putLine (String.ofList (e.line.toList.takeWhile (· != '\n'))))
  | .show => on (e.putLine (visibleLine e.line))
  | .number => on (e.putLine (toString e.number))
  | .fileName => on (e.putLine e.file)
  | .quit status prints => (e, .stops status prints)
  | .read path => on { e with later := e.later ++ [.file path] }
  | .readLine path =>
    let count := (e.taken.lookup path).getD 0
    let lines := (w.text? path).elim [] fun text => (linesOf text).1
    match lines[count]? with
    | some line => on { e with
        later := e.later ++ [.text (line ++ "\n")]
        taken := (path, count + 1) :: e.taken.filter (·.1 ≠ path) }
    | none => on e
  | .write path => on (e.writeLine path e.line e.whole)
  | .writeLine path =>
    on (e.writeLine path (String.ofList (e.line.toList.takeWhile (· != '\n'))) true)
  | .substitute s =>
    let (made, e) := e.substitute s
    if !made then on e
    else
      let e := if s.prints then e.printLine else e
      on (match s.file? with
        | some path => e.writeLine path e.line e.whole
        | none => e)
  | .replace table =>
    on { e with line := String.ofList (e.line.toList.map fun c => (table.lookup c).getD c) }
  | .empty => on { e with line := "" }

/-- Follows the commands from a place on, line by line, up to the end. Answers the outcome, or
nothing if the number of commands that may be followed was too small. -/
def follow (w : Workplace) : (bound place : Nat) → Editor → Editor × Option Nat
  | 0, _, e => (e, none)
  | bound + 1, place, e =>
    let endLine (prints : Bool) (e : Editor) : Editor :=
      flush w (if prints && !w.quiet then e.printLine else e)
    let (e, flow) : Editor × Flow := match w.commands[place]? with
      | none => (e, .ends true)
      | some command =>
        let (selected, e) := e.selects place command.selection
        match selected, command.action with
        | true, action => e.perform w place action
        | false, .block finish => (e, .goes finish)
        | false, _ => (e, .goes (place + 1))
    match flow with
    | .goes place => follow w bound place e
    | .again => follow w bound 0 (flush w e)
    | .stops status prints => (endLine prints e, some status)
    | .ends prints =>
      match (endLine prints e).advance? with
      | some e => follow w bound 0 { e with made := false }
      | none => (endLine prints e, some 0)

/-- The number of commands that are followed. -/
def bound : Nat := 5000000

/-- Edits the lines that are ahead. -/
def edit (w : Workplace) (e : Editor) : Editor × Option Nat :=
  match e.advance? with
  | some e => follow w bound 0 { e with made := false }
  | none => (e, some 0)

end Editor

end SignatureAudit.Emulation.Utility.Edit
