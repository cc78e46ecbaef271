import SignatureAudit.Emulation.Shell.Arithmetic
import SignatureAudit.Emulation.Text.Directive

/-!
# Escapes and formats

Escapes and formats are printed by the shell itself and by programs, which know some more escapes
and word their messages in another way; `FormatRules` says which rules hold. A format is used again
as long as arguments are left.
-/

namespace SignatureAudit.Emulation.Shell

/-- How formats are read and what is said about them. -/
structure FormatRules where
  /-- Whether a program prints, and not the shell. -/
  isProgram : Bool
  deriving DecidableEq, Repr

/-- The meaning of an escape. -/
inductive Escape
  /-- Text, and the number of characters of the escape behind its backslash. -/
  | text (text : String) (length : Nat)
  /-- Nothing more is printed. -/
  | stop
  deriving DecidableEq, Repr

namespace Escape

/-- The character of an escape of one letter. -/
def letter? : Char → Option Char
  | 'a' => some '\x07'
  | 'b' => some '\x08'
  | 'e' => some '\x1b'
  | 'f' => some '\x0c'
  | 'n' => some '\n'
  | 'r' => some '\r'
  | 't' => some '\t'
  | 'v' => some '\x0b'
  | '\\' => some '\\'
  | _ => none

/-- An octal digit. -/
def isOctal (c : Char) : Bool := '0' ≤ c && c ≤ '7'

/-- The character of a number; only its lowest eight bits count. -/
def byte (n : Nat) : String := String.singleton (Char.ofNat (n % 256))

/-- The escape of up to so many octal digits, in front of which some characters have been read. -/
def octal (most before : Nat) (cs : List Char) : Escape :=
  let digits := (cs.takeWhile isOctal).take most
  .text (byte (digits.foldl (fun n c => 8 * n + (c.toNat - 48)) 0)) (before + digits.length)

/-- The escape behind a backslash in a text that is printed, if it is one. -/
def inText? (rules : FormatRules) (cs : List Char) : Option Escape :=
  match cs with
  | [] => none
  | 'c' :: _ => some .stop
  | '0' :: rest => some (octal 3 1 rest)
  | c :: rest =>
    if isOctal c then some (octal 3 0 (c :: rest))
    else if c == 'x' && rules.isProgram then
      let digits := (rest.takeWhile fun c => (Text.hexDigit? c).isSome).take 2
      if digits.isEmpty then none
      else some (.text (byte ((Text.hexValue? digits).getD 0)) (1 + digits.length))
    else (letter? c).map fun c => .text (String.singleton c) 1

/-- The escape behind a backslash in a format, if it is one. -/
def inFormat? (rules : FormatRules) (cs : List Char) : Option Escape :=
  match cs with
  | [] => none
  | '"' :: _ => if rules.isProgram then some (.text "\"" 1) else none
  | 'c' :: _ => if rules.isProgram then some .stop else none
  | c :: rest => if isOctal c then some (octal 3 0 (c :: rest)) else inText? rules (c :: rest)

end Escape

/-- Text in which escapes have been replaced, and whether more may be printed behind it. Some
characters are skipped first. -/
def unescapeFrom (rules : FormatRules) : (skip : Nat) → List Char → List Char × Bool
  | _, [] => ([], true)
  | skip + 1, _ :: rest => unescapeFrom rules skip rest
  | 0, c :: rest =>
    match if c == '\\' then Escape.inText? rules rest else none with
    | some .stop => ([], false)
    | some (.text text length) =>
      let (more, goesOn) := unescapeFrom rules length rest
      (text.toList ++ more, goesOn)
    | none =>
      let (more, goesOn) := unescapeFrom rules 0 rest
      (c :: more, goesOn)

/-- Text in which escapes have been replaced, and whether more may be printed behind it. -/
def unescape (rules : FormatRules) (text : String) : String × Bool :=
  if text.toList.contains '\\' then
    let (cs, goesOn) := unescapeFrom rules 0 text.toList
    (String.ofList cs, goesOn)
  else (text, true)

/-! ## Arguments -/

/-- What is wrong with the argument of a directive. -/
inductive Misgiven
  | notNumber
  | partlyNumber
  | outOfRange
  deriving DecidableEq, Repr

/-- What is said about the argument of a directive. -/
def Misgiven.message (rules : FormatRules) (argument : String) (m : Misgiven) : String :=
  let about := if rules.isProgram then "'" ++ argument ++ "': " else argument ++ ": "
  about ++ match m with
    | .notNumber =>
      if rules.isProgram then "expected a numeric value" else "expected numeric value"
    | .partlyNumber =>
      if rules.isProgram then "value not completely converted" else "not completely converted"
    | .outOfRange => "Numerical result out of range"

/-- The sign of a number behind blanks, and what follows. -/
def signed (cs : List Char) : Bool × List Char :=
  match cs.dropWhile fun c => c == ' ' || (c.toNat > 8 && c.toNat < 14) with
  | '-' :: rest => (true, rest)
  | '+' :: rest => (false, rest)
  | rest => (false, rest)

/-- The number that a letter behind a quotation mark stands for. -/
def letterNumber? (argument : String) : Option Nat :=
  match argument.toList with
  | '\'' :: c :: _ | '"' :: c :: _ => some c.toNat
  | _ => none

/-- The integer that an argument writes, and what is wrong with it. -/
def integerArgument (unsigned : Bool) (argument : String) : Int × Option Misgiven :=
  match letterNumber? argument with
  | some n => (n, none)
  | none =>
    let (negative, cs) := signed argument.toList
    let (base, digits, length) := ArithmeticToken.numeral cs
    let n := digits.foldl (fun n c => base * n + (Text.hexDigit? c).getD 0) 0
    let high : Nat := if unsigned then 18446744073709551615
      else if negative then 9223372036854775808 else 9223372036854775807
    let value : Int := if negative then -(min n high : Nat) else (min n high : Nat)
    if argument = "" then (0, none)
    else if length = 0 then (0, some .notNumber)
    else if high < n then (value, some .outOfRange)
    else if length < cs.length then (value, some .partlyNumber)
    else (value, none)

/-- The number that an argument writes, and what is wrong with it. -/
def quantityArgument (rules : FormatRules) (argument : String) : Quantity × Option Misgiven :=
  match letterNumber? argument with
  | some n => (.finite false ⟨n, 1⟩, none)
  | none =>
    let (negative, cs) := signed argument.toList
    let lower := (String.ofList cs).toLower
    if argument = "" then (.finite false ⟨0, 1⟩, none)
    else if lower = "inf" || lower = "infinity" then (.infinite negative, none)
    else if lower = "nan" then (.undefined negative, none)
    else
      match Magnitude.read? cs with
      | none => (.finite false ⟨0, 1⟩, some .notNumber)
      | some (digits, power, length) =>
        let magnitude :=
          (Magnitude.ofDecimal digits power).rounded (if rules.isProgram then 64 else 53)
        (.finite negative magnitude, if length < cs.length then some .partlyNumber else none)

/-! ## Formats -/

/-- What a format prints. -/
structure Formatted where
  text : String := ""
  /-- The arguments that are left. -/
  arguments : List String
  /-- Whether more may be printed. -/
  goesOn : Bool := true
  /-- What is said about the arguments. -/
  complaints : List String := []
  /-- Why the format cannot be used. -/
  fault? : Option String := none

namespace Formatted

/-- A format with text in front. -/
def after (text : String) (f : Formatted) : Formatted := { f with text := text ++ f.text }

/-- A format with complaints in front. -/
def complaining (complaints : List String) (f : Formatted) : Formatted :=
  { f with complaints := complaints ++ f.complaints }

end Formatted

/-- The number in a directive, the arguments that are left and complaints. -/
def directiveNumber (rules : FormatRules) (arguments : List String) :
    DirectiveNumber → Int × List String × List String
  | .given n => (n, arguments, [])
  | .argument =>
    let argument := arguments.headD ""
    let (n, wrong?) := integerArgument false argument
    (n, arguments.drop 1, (wrong?.map (·.message rules argument)).toList)

/-- What one directive prints, the arguments that are left, and complaints; nothing if its letter
has no meaning. The last answer tells whether more may be printed. -/
def formatOne? (rules : FormatRules) (t : DirectiveText) (arguments : List String) :
    Option (String × List String × List String × Bool) := do
  let (width, arguments, widthComplaints) := directiveNumber rules arguments t.width
  let (precision?, arguments, precisionComplaints) := match t.precision? with
    | none => (none, arguments, [])
    | some n =>
      let (p, arguments, complaints) := directiveNumber rules arguments n
      (if p < 0 then none else some p.toNat, arguments, complaints)
  let d : Directive :=
    { flags := if width < 0 then '-' :: t.flags else t.flags, width := width.natAbs, precision? }
  let complaints := widthComplaints ++ precisionComplaints
  let argument := arguments.headD ""
  let rest := arguments.drop 1
  let told (wrong? : Option Misgiven) : List String :=
    complaints ++ (wrong?.map (·.message rules argument)).toList
  match ← t.letter? with
  | 's' => some (d.text argument, rest, complaints, true)
  | 'c' =>
    let c := String.ofList (argument.toList.take 1)
    some (d.pad (if c = "" then "\x00" else c), rest, complaints, true)
  | 'b' =>
    let (text, goesOn) := unescape rules argument
    some (d.text text, rest, complaints, goesOn)
  | 'd' | 'i' =>
    let (n, wrong?) := integerArgument false argument
    some (d.integer n, rest, told wrong?, true)
  | letter =>
    if letter == 'u' || letter == 'o' || letter == 'x' || letter == 'X' then
      let (n, wrong?) := integerArgument true argument
      let n := (n % 18446744073709551616).toNat
      let base := if letter == 'u' then 10 else if letter == 'o' then 8 else 16
      some (d.natural base (letter == 'X') n, rest, told wrong?, true)
    else if ['f', 'F', 'e', 'E', 'g', 'G'].contains letter then
      let (q, wrong?) := quantityArgument rules argument
      some (d.quantity letter q, rest, told wrong?, true)
    else none

/-- Whether a directive can be read at all. Only programs know sizes, and they do not fill text
whose escapes they replace. -/
def isDirective (rules : FormatRules) (t : DirectiveText) : Bool :=
  if rules.isProgram then t.letter? != some 'b' || t.length = 1 else t.sizes.isEmpty

/-- What is said about a directive that has no meaning. -/
def misdirected (rules : FormatRules) (t : DirectiveText) (cs : List Char) : String :=
  if rules.isProgram then
    "%" ++ String.ofList (cs.take t.length) ++ ": invalid conversion specification"
  else if t.sizes.isEmpty && t.letter?.isNone then "missing format character"
  else
    let behind := t.sizes.length + t.letter?.toList.length
    "%" ++ String.ofList (cs.take (t.length - behind + 1)) ++ ": invalid directive"

/-- What one use of a format prints. -/
def format (rules : FormatRules) (cs : List Char) (arguments : List String) : Formatted :=
  match cs with
  | [] => { arguments }
  | '%' :: '%' :: rest => (format rules rest arguments).after "%"
  | '%' :: rest =>
    let t := DirectiveText.read rest
    match if isDirective rules t then formatOne? rules t arguments else none with
    | none => { arguments, goesOn := false, fault? := some (misdirected rules t rest) }
    | some (text, left, complaints, goesOn) =>
      let more := if goesOn then format rules (rest.drop t.length) left
        else { arguments := left, goesOn }
      (more.after text).complaining complaints
  | '\\' :: rest =>
    match Escape.inFormat? rules rest with
    | some .stop => { arguments, goesOn := false }
    | some (.text text length) => (format rules (rest.drop length) arguments).after text
    | none => (format rules rest arguments).after "\\"
  | c :: rest => (format rules rest arguments).after (String.singleton c)
termination_by cs.length
decreasing_by all_goals simp only [List.length_cons, List.length_drop]; omega

/-- What a format prints with all arguments. -/
def formatAll (rules : FormatRules) (cs : List Char) (arguments : List String) : Formatted :=
  let first := format rules cs arguments
  if _used : first.arguments.length < arguments.length then
    if first.goesOn && !first.arguments.isEmpty then
      ((formatAll rules cs first.arguments).after first.text).complaining first.complaints
    else first
  else first
termination_by arguments.length

end SignatureAudit.Emulation.Shell
