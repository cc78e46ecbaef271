import SignatureAudit.Emulation.Shell.Format
import SignatureAudit.Emulation.Text.Directive
import SignatureAudit.Emulation.Utility.Record.Token

/-!
# Values of scripts for records

A value is a number or a text. A text that comes from the input and writes a number counts as both.
Two values are compared as numbers if both can be taken for one, and as texts otherwise.
-/

namespace SignatureAudit.Emulation.Utility.Record

/-- A value. -/
inductive Cell
  | unset
  | number (value : Float)
  | text (text : String)
  /-- A text of the input that writes a number. -/
  | both (text : String) (value : Float)
  deriving Inhabited

/-- A blank. -/
def isBlank (c : Char) : Bool := c == ' ' || (c.toNat > 8 && c.toNat < 14)

/-- The number at the front of a text, and what follows it. -/
def leadingNumber? (text : List Char) : Option (Float × List Char) :=
  let (negative, cs) := match text.dropWhile isBlank with
    | '-' :: cs => (true, cs)
    | '+' :: cs => (false, cs)
    | cs => (false, cs)
  let signed (x : Float) : Float := if negative then -x else x
  let hex := match cs with
    | '0' :: x :: digits =>
      if x == 'x' || x == 'X' then digits.takeWhile fun c => (Text.hexDigit? c).isSome else []
    | _ => []
  if !hex.isEmpty then
    some (signed (floatOf ((Text.hexValue? hex).getD 0) 0), cs.drop (hex.length + 2))
  else
    (Magnitude.read? cs).map fun (digits, power, length) =>
      (signed (floatOf digits power), cs.drop length)

/-- The number that a text starts with, or zero. -/
def numberOf (text : String) : Float := ((leadingNumber? text.toList).map (·.1)).getD 0

/-- The integer that is nearest to a number on the side of zero. -/
def truncated (x : Float) : Int := x.toInt64.toInt

/-- Whether a number is an integer that can be written as one. -/
def isWhole (x : Float) : Bool := x == x.floor && x.abs < 9223372036854775808.0

namespace Cell

/-- The value of a text of the input. -/
def ofInput (text : String) : Cell :=
  match leadingNumber? text.toList with
  | some (x, rest) => if rest.all isBlank then .both text x else .text text
  | none => .text text

/-- The value of a natural number. -/
def ofNat (n : Nat) : Cell := .number n.toFloat

/-- The value of a truth. -/
def ofTruth (b : Bool) : Cell := .number (if b then 1 else 0)

/-- A value as a number. -/
def toNumber : Cell → Float
  | .unset => 0
  | .number x => x
  | .text t => numberOf t
  | .both _ x => x

/-- Whether a value counts as true. -/
def isTrue : Cell → Bool
  | .unset => false
  | .number x => x != 0
  | .text t => t != ""
  | .both _ x => x != 0

/-- Whether a value can be taken for a number. -/
def isNumeric : Cell → Bool
  | .text _ => false
  | _ => true

end Cell

/-! ## Formats -/

/-- The quantity that a number is. What is no number has a sign, as machines give it one. -/
def quantityOf (x : Float) : Quantity :=
  if x.isNaN then .undefined true else Quantity.ofBits x.toBits

/-- Text for a number in a format of one directive. -/
def numberIn (format : String) (x : Float) : String :=
  let cs := format.toList
  let before := cs.takeWhile (· != '%')
  let t := DirectiveText.read (cs.drop (before.length + 1))
  let size (n : DirectiveNumber) : Nat :=
    match n with
    | .given n => n
    | .argument => 0
  let d : Directive :=
    { flags := t.flags, width := size t.width, precision? := t.precision?.map size }
  let written := match t.letter? with
    | some letter =>
      if ['d', 'i'].contains letter then d.integer (truncated x)
      else d.quantity letter (quantityOf x)
    | none => ""
  String.ofList before ++ written ++ String.ofList (cs.drop (before.length + 1 + t.length))

/-- The text of a number; a format is for those that are no integers. -/
def numberText (format : String) (x : Float) : String :=
  if isWhole x then toString (truncated x) else numberIn format x

/-- A value as text; a format is for numbers. -/
def Cell.toText (format : String) : Cell → String
  | .unset => ""
  | .number x => numberText format x
  | .text t => t
  | .both t _ => t

/-- What one directive writes, and the arguments that are left; nothing if arguments are missing. -/
def directive? (conversion : String) (t : DirectiveText) (arguments : List Cell) :
    Option (String × List Cell) := do
  let size (n : DirectiveNumber) (arguments : List Cell) : Option (Int × List Cell) :=
    match n, arguments with
    | .given n, _ => some (n, arguments)
    | .argument, cell :: rest => some (truncated cell.toNumber, rest)
    | .argument, [] => none
  let (width, arguments) ← size t.width arguments
  let (precision?, arguments) ← match t.precision? with
    | none => some (none, arguments)
    | some n => (size n arguments).map fun (p, rest) =>
      (if p < 0 then none else some p.toNat, rest)
  let d : Directive :=
    { flags := if width < 0 then '-' :: t.flags else t.flags, width := width.natAbs, precision? }
  let letter ← t.letter?
  let (cell, rest) ← match arguments with
    | cell :: rest => some (cell, rest)
    | [] => none
  if letter == 's' then some (d.text (cell.toText conversion), rest)
  else if letter == 'c' then
    let c := match cell with
      | .number x => String.singleton (Char.ofNat ((truncated x) % 256).toNat)
      | cell => String.ofList ((cell.toText conversion).toList.take 1)
    some (d.pad c, rest)
  else if letter == 'd' || letter == 'i' then some (d.integer (truncated cell.toNumber), rest)
  else if ['o', 'x', 'X', 'u'].contains letter then
    let n := ((truncated cell.toNumber) % 18446744073709551616).toNat
    let base := if letter == 'u' then 10 else if letter == 'o' then 8 else 16
    some (d.natural base (letter == 'X') n, rest)
  else if ['e', 'E', 'f', 'F', 'g', 'G'].contains letter then
    some (d.quantity letter (quantityOf cell.toNumber), rest)
  else none

/-- What a format writes with arguments, and whether there were enough of them; what stands behind a
missing one is left out. -/
def formatted (conversion : String) (cs : List Char) (arguments : List Cell) : String × Bool :=
  match cs with
  | [] => ("", true)
  | '%' :: '%' :: rest =>
    let (more, complete) := formatted conversion rest arguments
    ("%" ++ more, complete)
  | '%' :: rest =>
    let t := DirectiveText.read rest
    if t.letter?.isNone then (String.ofList ('%' :: rest), true)
    else
      match directive? conversion t arguments with
      | none => ("", false)
      | some (text, left) =>
        let (more, complete) := formatted conversion (rest.drop t.length) left
        (text ++ more, complete)
  | c :: rest =>
    let (more, complete) := formatted conversion rest arguments
    (String.singleton c ++ more, complete)
termination_by cs.length
decreasing_by all_goals simp only [List.length_cons, List.length_drop]; omega

/-! ## Splitting -/

/-- What stands between the parts of a text. -/
inductive Separator
  /-- Blanks, which do not count at the ends. -/
  | blanks
  /-- Nothing: every character is a part. -/
  | nothing
  | character (char : Char)
  | regex (regex : Regex)

/-- The separator that a text writes. -/
def Separator.ofText (text : String) : Except RegexFault Separator :=
  match text.toList with
  | [] => .ok .nothing
  | [' '] => .ok .blanks
  | [c] => .ok (.character c)
  | _ => do return .regex (← regexOf text)

/-- The parts of a text between those that an expression fits. -/
def splitByRegex (regex : Regex) (text : String) : List String :=
  let r : Regex.Reading := { text := text.toList.toArray }
  let found := (Regex.all r regex).filter fun f => f.start < f.finish
  let step (s : List String × Nat) (f : Found) : List String × Nat :=
    (Regex.part r s.2 f.start :: s.1, f.finish)
  let (parts, behind) := found.foldl step ([], 0)
  (Regex.part r behind r.text.size :: parts).reverse

/-- The parts of a text; in a record of many lines the ends of lines separate them, too. -/
def Separator.split (s : Separator) (manyLines : Bool) (text : String) : List String :=
  if text = "" then []
  else
    match s with
    | .blanks =>
      ((text.toList.splitBy fun a b => isBlank a == isBlank b).filter
        fun part => !part.head?.any isBlank).map String.ofList
    | .nothing => text.toList.map String.singleton
    | .character c =>
      let parts := text.splitOn (String.singleton c)
      if manyLines then parts.flatMap fun part => part.splitOn "\n" else parts
    | .regex mark => splitByRegex (if manyLines then .either mark (.char '\n') else mark) text

/-- What separates records. -/
inductive RecordEnd
  | character (char : Char)
  /-- Empty lines. -/
  | paragraph
  | regex (regex : Regex)

/-- What separates records, as a text writes it. -/
def RecordEnd.ofText (text : String) : Except RegexFault RecordEnd :=
  match text.toList with
  | [] => .ok .paragraph
  | [c] => .ok (.character c)
  | _ => do return .regex (← regexOf text)

/-- The part of a text up to an empty line. -/
def upToEmptyLine : List Char → List Char
  | '\n' :: '\n' :: _ => []
  | c :: rest => c :: upToEmptyLine rest
  | [] => []

/-- The first record of a text, and what is left. -/
def RecordEnd.take? (e : RecordEnd) (cs : List Char) : Option (String × List Char) :=
  match e with
  | .character c =>
    if cs.isEmpty then none
    else
      let found := cs.takeWhile (· != c)
      some (String.ofList found, cs.drop (found.length + 1))
  | .paragraph =>
    let cs := cs.dropWhile (· == '\n')
    if cs.isEmpty then none
    else
      let found := upToEmptyLine cs
      let rest := (cs.drop found.length).dropWhile (· == '\n')
      let found := if rest.isEmpty && found.getLast? == some '\n' then found.dropLast else found
      some (String.ofList found, rest)
  | .regex mark =>
    if cs.isEmpty then none
    else
      let r : Regex.Reading := { text := cs.toArray }
      match (Regex.all r mark).find? fun f => f.start < f.finish with
      | some f => some (String.ofList (cs.take f.start), cs.drop f.finish)
      | none =>
        let cs := if cs.getLast? == some '\n' then cs.dropLast else cs
        some (String.ofList cs, [])

end SignatureAudit.Emulation.Utility.Record
