import SignatureAudit.Emulation.Shell.Condition
import SignatureAudit.Emulation.Text.Regex.Reader
import SignatureAudit.Emulation.Utility.Basic

/-!
# The program that calculates

An expression is written as one argument for each value and each sign. It is read with a stack of
what is still to be completed: groups, functions that lack arguments, and operators that lack their
second operand. Its value is a text, of which some signs ask that it writes an integer.
-/

namespace SignatureAudit.Emulation.Utility

open Shell (Running Machine Utility)
open Shell.Running (printLine)

/-- An expression over texts. -/
inductive ValueTerm
  | text (text : String)
  | binary (sign : String) (first second : ValueTerm)
  | call (function : String) (arguments : List ValueTerm)
  deriving Inhabited

/-- Why an expression has no value. -/
inductive ValueFault
  | missingOperand
  | missingAfter (word : String)
  | unexpected (word : String)
  | unexpectedClose
  | unclosed (word : String)
  | notInteger
  | divisionByZero
  | regex (fault : RegexFault)
  deriving DecidableEq, Repr

/-- The wording of a fault. -/
def ValueFault.message : ValueFault → String
  | .missingOperand => "missing operand"
  | .missingAfter word => "syntax error: missing argument after " ++ quoted word
  | .unexpected word => "syntax error: unexpected argument " ++ quoted word
  | .unexpectedClose => "syntax error: unexpected ')'"
  | .unclosed word => "syntax error: expecting ')' after " ++ quoted word
  | .notInteger => "non-integer argument"
  | .divisionByZero => "division by zero"
  | .regex fault => fault.message

namespace ValueTerm

/-! ## Reading -/

/-- How strongly a sign binds. -/
def strength? (sign : String) : Option Nat :=
  match sign with
  | "|" => some 1
  | "&" => some 2
  | "<" | "<=" | "=" | "==" | "!=" | ">=" | ">" => some 3
  | "+" | "-" => some 4
  | "*" | "/" | "%" => some 5
  | ":" => some 6
  | _ => none

/-- The number of arguments of a function. -/
def arity? (function : String) : Option Nat :=
  match function with
  | "length" => some 1
  | "match" | "index" => some 2
  | "substr" => some 3
  | _ => none

/-- What is still to be completed. -/
inductive Pending
  | group
  /-- A function that lacks so many arguments; those it has come backwards. -/
  | call (function : String) (lacks : Nat) (arguments : List ValueTerm)
  | binary (sign : String) (strength : Nat) (first : ValueTerm)

/-- Where a reader stands: what is pending, and the value behind which a sign can follow. -/
structure Reading where
  pending : List Pending := []
  value? : Option ValueTerm := none
  /-- The next word is a value, whatever it is. -/
  literal : Bool := false

/-- Gives a value to the functions that wait for one. -/
def supply (value : ValueTerm) : List Pending → Reading
  | .call function lacks arguments :: rest =>
    let arguments := value :: arguments
    if lacks ≤ 1 then supply (.call function arguments.reverse) rest
    else { pending := .call function (lacks - 1) arguments :: rest }
  | pending => { pending, value? := some value }

/-- Completes the signs that bind at least as strongly as one that follows. -/
def settle (strength : Nat) (value : ValueTerm) : List Pending → ValueTerm × List Pending
  | .binary sign own first :: rest =>
    if strength ≤ own then settle strength (.binary sign first value) rest
    else (value, .binary sign own first :: rest)
  | pending => (value, pending)

/-- Reads one word; `before` is the word in front of it. -/
def step (r : Reading) (before word : String) : Except ValueFault Reading :=
  match r.value? with
  | none =>
    if r.literal then .ok (supply (.text word) r.pending)
    else if word = "(" then .ok { r with pending := .group :: r.pending }
    else if word = ")" then .error .unexpectedClose
    else if word = "+" then .ok { r with literal := true }
    else
      match arity? word with
      | some n => .ok { r with pending := .call word n [] :: r.pending }
      | none => .ok (supply (.text word) r.pending)
  | some value =>
    if word = ")" then
      match settle 0 value r.pending with
      | (value, .group :: rest) => .ok (supply value rest)
      | _ => .error (.unexpected word)
    else
      match strength? word with
      | none => .error (if r.pending.any fun | .group => true | _ => false then .unclosed before
          else .unexpected word)
      | some strength =>
        let (value, pending) := settle strength value r.pending
        .ok { pending := .binary word strength value :: pending }

/-- Reads words behind another one. -/
def follow (r : Reading) (before : String) : List String → Except ValueFault ValueTerm
  | [] =>
    match r.value? with
    | none => .error (.missingAfter before)
    | some value =>
      match settle 0 value r.pending with
      | (value, []) => .ok value
      | _ => .error (.unclosed before)
  | word :: rest => do follow (← step r before word) word rest

/-- Reads an expression. -/
def read (words : List String) : Except ValueFault ValueTerm :=
  if words.isEmpty then .error .missingOperand else follow {} "" words

/-! ## Values -/

/-- Whether a text is empty or writes zero. -/
def isNull (text : String) : Bool :=
  text = "" || (text.toInt? = some 0 && text.toList.head? != some '+')

/-- The integer that a text writes. -/
def integer? (text : String) : Option Int :=
  let digits := if text.toList.head? == some '-' then text.toList.drop 1 else text.toList
  if digits.isEmpty || !digits.all Char.isDigit then none
  else
    let n : Nat := digits.foldl (fun n c => 10 * n + (c.toNat - 48)) 0
    some (if text.toList.head? == some '-' then -n else n)

/-- The text of a truth. -/
def truth (b : Bool) : String := if b then "1" else "0"

/-- Compares two texts, as integers if they are. -/
def compare (sign a b : String) : String :=
  let order := match integer? a, integer? b with
    | some a, some b => Ord.compare a b
    | _, _ => Ord.compare a b
  truth (match sign with
    | "<" => order == .lt
    | "<=" => order != .gt
    | ">" => order == .gt
    | ">=" => order != .lt
    | "!=" => order != .eq
    | _ => order == .eq)

/-- Calculates with two texts. -/
def calculate (sign a b : String) : Except ValueFault String :=
  match integer? a, integer? b with
  | some a, some b =>
    match sign with
    | "+" => .ok (toString (a + b))
    | "-" => .ok (toString (a - b))
    | "*" => .ok (toString (a * b))
    | "/" => if b = 0 then .error .divisionByZero else .ok (toString (Int.tdiv a b))
    | _ => if b = 0 then .error .divisionByZero else .ok (toString (Int.tmod a b))
  | _, _ => .error .notInteger

/-- The part of a text that a regular expression fits at its front: what its first group fits, or
the number of characters. -/
def matching (text pattern : String) : Except ValueFault String := do
  let regex ← (Regex.read { extended := false, lenient := true } pattern).mapError .regex
  let r : Regex.Reading := { text := text.toList.toArray }
  match Regex.longest? r regex 0, regex.groupCount with
  | some f, 0 => .ok (toString f.finish)
  | none, 0 => .ok "0"
  | some f, _ =>
    match f.groups.lookup 1 with
    | some (low, high) => .ok (Regex.part r low high)
    | none => .ok ""
  | none, _ => .ok ""

/-- The value of a function. -/
def apply (function : String) (arguments : List String) : Except ValueFault String :=
  match function, arguments with
  | "length", [whole] => .ok (toString whole.length)
  | "match", [whole, pattern] => matching whole pattern
  | "index", [whole, members] =>
    .ok (toString ((whole.toList.findIdx? members.toList.contains).map (· + 1) |>.getD 0))
  | "substr", [whole, start, length] =>
    match integer? start, integer? length with
    | some start, some length =>
      if start ≤ 0 || length ≤ 0 then .ok ""
      else .ok (String.ofList ((whole.toList.drop (start.toNat - 1)).take length.toNat))
    | _, _ => .ok ""
  | _, _ => .ok ""

mutual

/-- The value of an expression. -/
def value : ValueTerm → Except ValueFault String
  | .text word => .ok word
  | .binary sign first second => do
    let a ← value first
    match sign with
    | "|" =>
      if !isNull a then .ok a
      else
        let b ← value second
        .ok (if isNull b then "0" else b)
    | "&" =>
      if isNull a then .ok "0"
      else
        let b ← value second
        .ok (if isNull b then "0" else a)
    | ":" => matching a (← value second)
    | sign =>
      let b ← value second
      if strength? sign = some 3 then .ok (compare sign a b) else calculate sign a b
  | .call function arguments => do apply function (← values arguments)

/-- The values of expressions. -/
def values : List ValueTerm → Except ValueFault (List String)
  | [] => .ok []
  | term :: rest => do
    let first ← value term
    return first :: (← values rest)

end

end ValueTerm

/-- Shows the value of an expression. -/
def expr : Utility := fun _ args => do
  let words := if args.head? = some "--" then args.drop 1 else args
  match ValueTerm.read words with
  | .error .missingOperand => misuse ValueFault.missingOperand.message 2
  | .error fault => fail fault.message 2
  | .ok term =>
    match term.value with
    | .error fault => fail fault.message 2
    | .ok text => do
      printLine text
      pure (if ValueTerm.isNull text then 1 else 0)

end SignatureAudit.Emulation.Utility
