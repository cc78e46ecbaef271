import SignatureAudit.Emulation.Shell.Format
import SignatureAudit.Emulation.Utility.Basic

/-!
# Programs that print

The programs that print their arguments, or numbers, or the same line for ever.
-/

namespace SignatureAudit.Emulation.Utility

open Shell (Running Utility FormatRules)
open Shell.Running (print printLine)

/-- The rules of formats that programs print. -/
def formatRules : FormatRules := ⟨true⟩

/-! ## Arguments -/

/-- The options in front of words that are printed: whether a newline ends them, and whether escapes
are replaced. -/
def echoOptions (newline escapes : Bool) : List String → Bool × Bool × List String
  | [] => (newline, escapes, [])
  | word :: rest =>
    match word.toList with
    | '-' :: c :: cs =>
      if (c :: cs).all fun c => c == 'n' || c == 'e' || c == 'E' then
        let newline := newline && !(c :: cs).contains 'n'
        let escapes := (c :: cs).foldl (fun e c => if c == 'n' then e else c == 'e') escapes
        echoOptions newline escapes rest
      else (newline, escapes, word :: rest)
    | _ => (newline, escapes, word :: rest)

/-- Prints its arguments. -/
def echo : Utility := fun _ args => do
  let (newline, escapes, words) := echoOptions true false args
  let text := " ".intercalate words
  let (text, goesOn) := if escapes then Shell.unescape formatRules text else (text, true)
  print (text ++ if newline && goesOn then "\n" else "")
  pure 0

/-- Prints arguments in a format. -/
def printf : Utility := fun _ args => do
  let args := if args.head? = some "--" then args.drop 1 else args
  match args with
  | [] => misuse "missing operand"
  | format :: args =>
    let f := Shell.formatAll formatRules format.toList args
    for complaint in f.complaints do warn complaint
    print f.text
    match f.fault?, f.arguments with
    | some fault, _ => fail fault
    | none, argument :: _ => do
      if f.goesOn then
        warn ("warning: ignoring excess arguments, starting with " ++ quoted argument)
      pure (if f.complaints.isEmpty then 0 else 1)
    | none, [] => pure (if f.complaints.isEmpty then 0 else 1)

/-! ## Numbers -/

/-- A decimal number: its digits without the point, and how many of them stand behind it. -/
structure Decimal where
  digits : Int
  places : Nat
  deriving DecidableEq, Repr

namespace Decimal

/-- Reads a number. -/
def read? (text : String) : Option Decimal := do
  let (negative, cs) := Shell.signed text.toList
  let sign : Int := if negative then -1 else 1
  match cs with
  | '0' :: 'x' :: digits => do
    if digits.isEmpty then none
    else some ⟨sign * ((← Text.hexValue? digits) : Nat), 0⟩
  | _ => do
    let (digits, power, length) ← Magnitude.read? cs
    if length ≠ cs.length then none
    else
      match power with
      | .ofNat p => some ⟨sign * (digits * Nat.pow 10 p : Nat), 0⟩
      | .negSucc p => some ⟨sign * digits, p + 1⟩

/-- The digits with so many places. -/
def scaled (d : Decimal) (places : Nat) : Int := d.digits * (Nat.pow 10 (places - d.places) : Nat)

/-- A number with so many places as text. -/
def text (places : Nat) (digits : Int) : String :=
  (if digits < 0 then "-" else "") ++ Magnitude.pointed places digits.natAbs

/-- The nanoseconds of a number of seconds. -/
def nanoseconds (d : Decimal) : Nat :=
  (d.digits.toNat * 1000000000) / Nat.pow 10 d.places

end Decimal

/-- Whether a word in front of numbers is none of them. -/
def isNumberOption (word : String) : Bool :=
  match word.toList with
  | '-' :: c :: _ => !(c.isDigit || c == '.')
  | _ => false

/-- The options in front of numbers, which can have a sign. -/
def numberArguments : List String → List String × List String
  | [] => ([], [])
  | [word] => if isNumberOption word then ([word], []) else ([], [word])
  | word :: value :: rest =>
    if word = "--" then ([], value :: rest)
    else if word = "-s" || word = "-f" then
      let (options, numbers) := numberArguments rest
      (word :: value :: options, numbers)
    else if isNumberOption word then
      let (options, numbers) := numberArguments (value :: rest)
      (word :: options, numbers)
    else ([], word :: value :: rest)

/-- So many numbers from one on. -/
def steps (first step : Int) (count : Nat) : List Int :=
  (List.range count).map fun (n : Nat) => first + step * (n : Int)

/-- Prints a row of numbers. -/
def printRow (g : Given) (first step last : Decimal) : Running Nat := do
  let places := max first.places step.places
  let fine := max places last.places
  let distance := last.scaled fine - first.scaled fine
  let stride := step.scaled fine
  let count := if distance * stride < 0 then 0 else (distance.natAbs / stride.natAbs) + 1
  let numbers := steps (first.scaled places) (step.scaled places) (min count 4000000)
  match g.last? "f" with
  | some format =>
    let argument (n : Int) : String := Decimal.text places n
    let texts := numbers.map fun n =>
      (Shell.formatAll formatRules format.toList [argument n]).text
    print ((((g.last? "s").getD "\n").intercalate texts) ++ if texts.isEmpty then "" else "\n")
    pure 0
  | none =>
    let texts := numbers.map (Decimal.text places)
    let width := (texts.map String.length).foldl max 0
    let pad (text : String) : String :=
      match text.toList with
      | '-' :: digits => "-" ++ Magnitude.padded (width - 1) (String.ofList digits)
      | _ => Magnitude.padded width text
    let texts := if g.has "w" then texts.map pad else texts
    print ((((g.last? "s").getD "\n").intercalate texts) ++ if texts.isEmpty then "" else "\n")
    pure 0

/-- Prints the numbers between two numbers. -/
def seq : Utility := fun _ args =>
  let (options, numbers) := numberArguments args
  withOptions [letter 'w' ["equal-width"], taking 's' ["separator"], taking 'f' ["format"]]
    (fun g => do
      match numbers with
      | [] => misuse "missing operand"
      | _ :: _ :: _ :: extra :: _ => misuse ("extra operand " ++ quoted extra)
      | _ =>
        match numbers.find? fun text => (Decimal.read? text).isNone with
        | some text => misuse ("invalid floating point argument: " ++ quoted text)
        | none =>
          let one : Decimal := ⟨1, 0⟩
          match numbers.filterMap Decimal.read? with
          | [last] => printRow g one one last
          | [first, last] => printRow g first one last
          | [first, step, last] =>
            if step.digits = 0 then
              misuse ("invalid Zero increment value: " ++ quoted (numbers.getD 1 ""))
            else printRow g first step last
          | _ => pure 1)
    options

/-! ## The same again -/

/-- Prints a line for ever. Of a million bytes nothing that reads a stream wants to have more. -/
def yes : Utility := fun _ args => do
  let line := (if args.isEmpty then "y" else " ".intercalate args) ++ "\n"
  print (String.join (List.replicate (1000000 / line.utf8ByteSize + 1) line))
  match (← get).channel? 1 with
  | some (.stream ..) => throw .choked
  | _ => throw .late

/-- Does nothing and succeeds. -/
def succeed : Utility := fun _ _ => pure 0

/-- Does nothing and fails. -/
def failing : Utility := fun _ _ => pure 1

end SignatureAudit.Emulation.Utility
