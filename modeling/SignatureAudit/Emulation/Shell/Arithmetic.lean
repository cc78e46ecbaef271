import SignatureAudit.Emulation.Shell.Word
import SignatureAudit.Remainder
import SignatureAudit.Text.Digit

/-!
# Arithmetic in shell scripts

An arithmetic expression is a formula with the operators and the precedence of C for integers of 64
bits, which wrap around. Names stand for the integers that their values write, and can be assigned
to. What is not evaluated, because another operand already decides, is read all the same.
-/

namespace SignatureAudit.Emulation.Shell

/-- An operation on two integers. -/
inductive ArithmeticOp
  | add
  | subtract
  | multiply
  | divide
  | remainder
  | shiftLeft
  | shiftRight
  | bitAnd
  | bitOr
  | bitXor
  | less
  | atMost
  | greater
  | atLeast
  | equal
  | differs
  deriving DecidableEq, Repr

/-- An arithmetic expression. -/
inductive Arithmetic
  | number (value : Int)
  | name (name : String)
  | negate (operand : Arithmetic)
  /-- All bits are turned over. -/
  | complement (operand : Arithmetic)
  | deny (operand : Arithmetic)
  | binary (op : ArithmeticOp) (left right : Arithmetic)
  | both (left right : Arithmetic)
  | either (left right : Arithmetic)
  | choose (test yes no : Arithmetic)
  /-- A name gets a value, perhaps that of an operation on its old one. -/
  | assign (name : String) (op? : Option ArithmeticOp) (value : Arithmetic)
  deriving Repr, Inhabited

/-- Why an expression has no value. -/
inductive ArithmeticFault
  | noOperand
  | notAtEnd
  | notClosed
  | noColon
  | divisionByZero
  /-- The value of a name is no integer. -/
  | notNumber (value : String)
  deriving DecidableEq, Repr

/-- The wording of a fault of an expression. -/
def ArithmeticFault.message (fault : ArithmeticFault) (text : String) : String :=
  let about (what : String) : String := "arithmetic expression: " ++ what ++ ": \"" ++ text ++ "\""
  match fault with
  | .noOperand => about "expecting primary"
  | .notAtEnd => about "expecting EOF"
  | .notClosed => about "expecting ')'"
  | .noColon => about "expecting ':'"
  | .divisionByZero => about "division by zero"
  | .notNumber value => "Illegal number: " ++ value

namespace ArithmeticOp

/-- An integer of 64 bits. -/
def wrap (n : Int) : Int := Int.bmod n UInt64.size

/-- The bits of an integer. -/
def bits (n : Int) : UInt64 := UInt64.ofInt n

/-- The integer of some bits. -/
def ofBits (w : UInt64) : Int := wrap w.toNat

/-- Truth as an integer. -/
def ofTruth (b : Bool) : Int := if b then 1 else 0

/-- The result of an operation. -/
def result (op : ArithmeticOp) (a b : Int) : Except ArithmeticFault Int :=
  match op with
  | .add => .ok (wrap (a + b))
  | .subtract => .ok (wrap (a - b))
  | .multiply => .ok (wrap (a * b))
  | .divide => if b = 0 then .error .divisionByZero else .ok (wrap (a.tdiv b))
  | .remainder => if b = 0 then .error .divisionByZero else .ok (a.tmod b)
  | .shiftLeft => .ok (ofBits (bits a <<< bits b))
  | .shiftRight => .ok (a.fdiv (Nat.pow 2 ((bits b).toNat % 64)))
  | .bitAnd => .ok (ofBits (bits a &&& bits b))
  | .bitOr => .ok (ofBits (bits a ||| bits b))
  | .bitXor => .ok (ofBits (bits a ^^^ bits b))
  | .less => .ok (ofTruth (a < b))
  | .atMost => .ok (ofTruth (a ≤ b))
  | .greater => .ok (ofTruth (b < a))
  | .atLeast => .ok (ofTruth (b ≤ a))
  | .equal => .ok (ofTruth (a == b))
  | .differs => .ok (ofTruth (a != b))

/-- The operators between two operands with their levels; a higher level binds more tightly. -/
def spellings : List (String × Nat × ArithmeticOp) :=
  [("*", 10, .multiply), ("/", 10, .divide), ("%", 10, .remainder), ("+", 9, .add),
   ("-", 9, .subtract), ("<<", 8, .shiftLeft), (">>", 8, .shiftRight), ("<", 7, .less),
   ("<=", 7, .atMost), (">", 7, .greater), (">=", 7, .atLeast), ("==", 6, .equal),
   ("!=", 6, .differs), ("&", 5, .bitAnd), ("^", 4, .bitXor), ("|", 3, .bitOr)]

end ArithmeticOp

/-! ## Tokens -/

/-- A token of an expression. -/
inductive ArithmeticToken
  | number (value : Int)
  | name (name : String)
  | sign (text : String)
  deriving DecidableEq, Repr

namespace ArithmeticToken

/-- The signs; a longer one stands in front of those that it starts with. -/
def signs : List String :=
  ["<<=", ">>=", "<<", ">>", "<=", ">=", "==", "!=", "&&", "||", "*=", "/=", "%=", "+=", "-=", "&=",
   "^=", "|=", "<", ">", "=", "!", "&", "|", "^", "*", "/", "%", "+", "-", "~", "(", ")", "?", ":"]

/-- The digits of a number, its base and the digits of this base that stand behind a mark. -/
def numeral (cs : List Char) : Nat × List Char × Nat :=
  match cs with
  | '0' :: x :: rest =>
    let digits := rest.takeWhile fun c => (Text.hexDigit? c).isSome
    if (x == 'x' || x == 'X') && !digits.isEmpty then (16, digits, digits.length + 2)
    else
      let digits := (x :: rest).takeWhile fun c => '0' ≤ c && c ≤ '7'
      (8, digits, digits.length + 1)
  | cs =>
    let digits := cs.takeWhile Char.isDigit
    (10, digits, digits.length)

/-- The largest integer; larger numbers are read as it. -/
def largest : Nat := 9223372036854775807

/-- Reads the number at the front of a text; tells with how many characters it is written. -/
def readNumber (cs : List Char) : Int × Nat :=
  let (base, digits, length) := numeral cs
  let value := digits.foldl (fun n c => base * n + (Text.hexDigit? c).getD 0) 0
  (min value largest, length)

/-- The tokens of an expression, as far as there are any; tells whether they are all. Some
characters are skipped first. -/
def read : (skip : Nat) → List Char → List ArithmeticToken × Bool
  | _, [] => ([], true)
  | skip + 1, _ :: rest => read skip rest
  | 0, c :: rest =>
    let behind (token : ArithmeticToken) (length : Nat) : List ArithmeticToken × Bool :=
      let (tokens, all) := read (length - 1) rest
      (token :: tokens, all)
    if c == ' ' || c == '\t' || c == '\n' then read 0 rest
    else if c.isDigit then
      let (value, length) := readNumber (c :: rest)
      behind (.number value) length
    else if isNameChar c then
      let name := c :: rest.takeWhile isNameChar
      behind (.name (String.ofList name)) name.length
    else
      match signs.find? fun text => text.toList.isPrefixOf (c :: rest) with
      | some text => behind (.sign text) text.length
      | none => ([], false)

end ArithmeticToken

namespace Arithmetic

/-- What reading answers: a part of an expression and the tokens that follow it. -/
abbrev Reading (tokens : List ArithmeticToken) :=
  Except ArithmeticFault (Arithmetic × Remainder tokens)

/-- What follows a sign, if it is there. -/
def afterSign? (text : String) (tokens : List ArithmeticToken) : Option (Remainder tokens) :=
  Remainder.after? (.sign text) tokens

/-- How the operator of a level at the front joins two operands, and what follows it. -/
def joint? (level : Nat) : (tokens : List ArithmeticToken) →
    Option ((Arithmetic → Arithmetic → Arithmetic) × Remainder tokens)
  | .sign text :: _ =>
    if text = "||" then if level = 1 then some (.either, .tail) else none
    else if text = "&&" then if level = 2 then some (.both, .tail) else none
    else
      match ArithmeticOp.spellings.lookup text with
      | some (l, op) => if l = level then some (.binary op, .tail) else none
      | none => none
  | _ => none

/-- The operator in front of one operand, and what follows it. -/
def front? : (tokens : List ArithmeticToken) → Option ((Arithmetic → Arithmetic) × Remainder tokens)
  | .sign text :: _ =>
    match text with
    | "-" => some (.negate, .tail)
    | "+" => some (id, .tail)
    | "~" => some (.complement, .tail)
    | "!" => some (.deny, .tail)
    | _ => none
  | _ => none

/-- The name and the operation of an assignment, and what follows its sign. -/
def assignment? : (tokens : List ArithmeticToken) →
    Option (String × Option ArithmeticOp × Remainder tokens)
  | .name target :: .sign text :: _ =>
    let left := Remainder.tail.widen .tail
    if text = "=" then some (target, none, left)
    else if ["<=", ">=", "==", "!="].contains text then none
    else if text.toList.getLast? == some '=' then
      (ArithmeticOp.spellings.lookup (String.ofList text.toList.dropLast)).map fun (_, op) =>
        (target, some op, left)
    else none
  | _ => none

mutual

/-- Reads an expression. -/
def expression (tokens : List ArithmeticToken) : Reading tokens := do
  match assignment? tokens with
  | some (target, op?, start) =>
    let (value, left) ← expression start.val
    .ok (.assign target op? value, start.widen left)
  | none =>
    let (test, left) ← operand 10 tokens
    match afterSign? "?" left.val with
    | none => .ok (test, left)
    | some next =>
      let start := left.widen next
      let (yes, left) ← expression start.val
      match afterSign? ":" left.val with
      | none => .error .noColon
      | some next =>
        let start := start.widen (left.widen next)
        let (no, last) ← expression start.val
        .ok (.choose test yes no, start.widen last)
termination_by (tokens.length, 12)
decreasing_by
  · exact Prod.Lex.left _ _ start.property
  · exact Prod.Lex.right _ (by decide)
  · exact Prod.Lex.left _ _ start.property
  · exact Prod.Lex.left _ _ start.property

/-- Reads operands and the operators between them that bind at least as tightly as so many levels
below the highest. -/
def operand (depth : Nat) (tokens : List ArithmeticToken) : Reading tokens := do
  match depth with
  | 0 => single tokens
  | depth + 1 =>
    let (first, left) ← operand depth tokens
    let (e, last) ← further depth first left.val
    .ok (e, left.shrink last)
termination_by (tokens.length, depth + 1)
decreasing_by
  · exact Prod.Lex.right _ (by decide)
  · exact Prod.Lex.right _ (by omega)
  · exact Prod.Lex.left _ _ left.property

/-- Reads the operands that follow one of the same level. -/
def further (depth : Nat) (first : Arithmetic) (tokens : List ArithmeticToken) :
    Except ArithmeticFault (Arithmetic × Leftover tokens) := do
  match joint? (10 - depth) tokens with
  | none => .ok (first, .all)
  | some (join, next) =>
    let (second, left) ← operand depth next.val
    let (e, last) ← further depth (join first second) left.val
    .ok (e, (next.widen left).leave last)
termination_by (tokens.length, 0)
decreasing_by
  · exact Prod.Lex.left _ _ next.property
  · exact Prod.Lex.left _ _ (next.widen left).property

/-- Reads an operand with the operators in front of it. -/
def single (tokens : List ArithmeticToken) : Reading tokens :=
  match front? tokens with
  | some (apply, start) => do
    let (e, left) ← single start.val
    .ok (apply e, start.widen left)
  | none =>
    match tokens with
    | .number value :: _ => .ok (.number value, .tail)
    | .name text :: _ => .ok (.name text, .tail)
    | .sign "(" :: rest => do
      let (e, left) ← expression rest
      match afterSign? ")" left.val with
      | some last => .ok (e, Remainder.tail.widen (left.widen last))
      | none => .error .notClosed
    | _ => .error .noOperand
termination_by (tokens.length, 0)
decreasing_by
  · exact Prod.Lex.left _ _ start.property
  · exact Prod.Lex.left _ _ (by simp)

end

/-- Reads a whole text. -/
def read (text : String) : Except ArithmeticFault Arithmetic := do
  let (tokens, all) := ArithmeticToken.read 0 text.toList
  let (e, left) ← expression tokens
  if left.val.isEmpty && all then .ok e else .error .notAtEnd

/-! ## Values -/

/-- The integer that a value writes, perhaps with a sign and blanks around it. -/
def integer (value : String) : Except ArithmeticFault Int :=
  let blank (c : Char) : Bool := c == ' ' || (c.toNat > 8 && c.toNat < 14)
  let cs := value.toList.dropWhile blank
  let (negative, cs) := match cs with
    | '-' :: cs => (true, cs)
    | '+' :: cs => (false, cs)
    | cs => (false, cs)
  let (n, length) := ArithmeticToken.readNumber cs
  if value.toList.all blank then .ok 0
  else if length = 0 || !(cs.drop length).all blank then .error (.notNumber value)
  else .ok (if negative then -n else n)

/-- What an evaluation answers: the names that have got values, the last one first. -/
abbrev Evaluation := StateT (List (String × String)) (Except ArithmeticFault)

/-- The integer that a name stands for; `values` knows the values that it has before. -/
def valueOf (values : String → String) (name : String) : Evaluation Int := do
  integer (((← get).lookup name).getD (values name))

/-- The value of an expression. -/
def eval (values : String → String) : Arithmetic → Evaluation Int
  | .number n => pure n
  | .name text => valueOf values text
  | .negate e => do return ArithmeticOp.wrap (-(← eval values e))
  | .complement e => do return ArithmeticOp.wrap (-(← eval values e) - 1)
  | .deny e => do return ArithmeticOp.ofTruth ((← eval values e) == 0)
  | .binary op a b => do
    let left ← eval values a
    let right ← eval values b
    op.result left right
  | .both a b => do
    if (← eval values a) == 0 then return 0
    else return ArithmeticOp.ofTruth ((← eval values b) != 0)
  | .either a b => do
    if (← eval values a) == 0 then return ArithmeticOp.ofTruth ((← eval values b) != 0)
    else return 1
  | .choose test yes no => do
    if (← eval values test) == 0 then eval values no else eval values yes
  | .assign target op? e => do
    let operand ← eval values e
    let result ← match op? with
      | none => pure operand
      | some op => do op.result (← valueOf values target) operand
    modify ((target, toString result) :: ·)
    return result

/-- The value of the expression that a text writes, and the values that names get by it. -/
def evaluate (values : String → String) (text : String) :
    Except ArithmeticFault (Int × List (String × String)) := do
  (eval values (← read text)).run []

end Arithmetic

end SignatureAudit.Emulation.Shell
