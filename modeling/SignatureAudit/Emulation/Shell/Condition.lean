import SignatureAudit.Emulation.Shell.Arithmetic
import SignatureAudit.Emulation.Shell.Machine
import SignatureAudit.Remainder

/-!
# Conditions

A condition is a list of words: texts and integers are compared, files are asked about, and the
answers are joined. A word that looks like an operator is a text where only a text makes sense.
-/

namespace SignatureAudit.Emulation.Shell

/-- A question about one word. -/
inductive UnaryTest
  | isEmpty
  | isNotEmpty
  | isTerminal
  /-- Whether something is at a path. -/
  | exists
  | isFile
  | isDirectory
  | isDevice
  | hasContent
  | isRunnable
  /-- What no file of a machine is. -/
  | never
  deriving DecidableEq, Repr

/-- A comparison of two words. -/
inductive BinaryTest
  | same
  | differs
  | before
  | behind
  /-- A comparison of integers. -/
  | integers (op : ArithmeticOp)
  | sameFile
  /-- A comparison of times, which no file has. -/
  | times
  deriving DecidableEq, Repr

/-- A word with a meaning in conditions. -/
inductive ConditionMark
  | unary (test : UnaryTest)
  | binary (test : BinaryTest)
  | deny
  | both
  | either
  | opening
  | closing
  deriving DecidableEq, Repr

/-- Why a condition has no answer. -/
inductive ConditionFault
  | missing (word : String)
  | unexpected (word : String)
  | unclosed
  | notInteger (word : String)
  deriving DecidableEq, Repr

/-- The wording of a fault. -/
def ConditionFault.message : ConditionFault → String
  | .missing word => word ++ ": argument expected"
  | .unexpected word => word ++ ": unexpected operator"
  | .unclosed => "closing paren expected"
  | .notInteger word => "Illegal number: " ++ word

namespace ConditionMark

/-- The marks. -/
def spellings : List (String × ConditionMark) :=
  [("-z", .unary .isEmpty), ("-n", .unary .isNotEmpty), ("-t", .unary .isTerminal),
   ("-e", .unary .exists), ("-r", .unary .exists), ("-w", .unary .exists), ("-O", .unary .exists),
   ("-G", .unary .exists), ("-f", .unary .isFile), ("-d", .unary .isDirectory),
   ("-c", .unary .isDevice), ("-s", .unary .hasContent), ("-x", .unary .isRunnable),
   ("-b", .unary .never), ("-g", .unary .never), ("-h", .unary .never), ("-k", .unary .never),
   ("-L", .unary .never), ("-p", .unary .never), ("-S", .unary .never), ("-u", .unary .never),
   ("=", .binary .same), ("!=", .binary .differs), ("<", .binary .before), (">", .binary .behind),
   ("-eq", .binary (.integers .equal)), ("-ne", .binary (.integers .differs)),
   ("-lt", .binary (.integers .less)), ("-le", .binary (.integers .atMost)),
   ("-gt", .binary (.integers .greater)), ("-ge", .binary (.integers .atLeast)),
   ("-ef", .binary .sameFile), ("-nt", .binary .times), ("-ot", .binary .times), ("!", .deny),
   ("-a", .both), ("-o", .either), ("(", .opening), (")", .closing)]

/-- The comparison that a word asks for. -/
def binary? (word : String) : Option BinaryTest :=
  match spellings.lookup word with
  | some (.binary test) => some test
  | _ => none

/-- Whether the first of some words can only be a text. -/
def isOperand : List String → Bool
  | [_] => true
  | _ :: second :: third :: _ => (binary? second).isSome && third ≠ ")"
  | _ => false

/-- The mark that the first of some words is. -/
def first? (words : List String) : Option ConditionMark :=
  match words with
  | [] => none
  | word :: rest =>
    match spellings.lookup word with
    | some (.unary test) => if isOperand words then none else some (.unary test)
    | some .opening => if rest.isEmpty then none else some .opening
    | mark? => mark?

end ConditionMark

namespace UnaryTest

/-- A place of a device. -/
def isDevicePlace : List String → Bool
  | ["dev", _] => true
  | _ => false

/-- The answer to a question. -/
def answer (m : Machine) (test : UnaryTest) (word : String) : Bool :=
  let node? := m.node? word
  let isDevice := (m.place word).toOption.any isDevicePlace
  match test with
  | .isEmpty => word = ""
  | .isNotEmpty => word ≠ ""
  | .isTerminal | .never => false
  | .exists => node?.isSome
  | .isDirectory => node?.any FileNode.isDirectory
  | .isFile => node?.any (!·.isDirectory) && !isDevice
  | .isDevice => node?.any (!·.isDirectory) && isDevice
  | .hasContent =>
    match node? with
    | some (.file bytes _) => bytes.size ≠ 0
    | some (.directory _) => true
    | none => false
  | .isRunnable =>
    match node? with
    | some (.file _ runnable) => runnable
    | some (.directory _) => true
    | none => false

end UnaryTest

namespace BinaryTest

/-- The integer that a word writes, however large it is. -/
def integerText? (word : String) : Option Int :=
  let blank (c : Char) : Bool := c == ' ' || (c.toNat > 8 && c.toNat < 14)
  let cs := (word.toList.dropWhile blank).reverse.dropWhile blank |>.reverse
  let (negative, digits) := match cs with
    | '-' :: digits => (true, digits)
    | '+' :: digits => (false, digits)
    | digits => (false, digits)
  let n : Nat := Text.digitsValue digits
  if digits.isEmpty || !digits.all Char.isDigit then none
  else some (if negative then -n else n)

/-- The integer that a word writes. -/
def integer (word : String) : Except ConditionFault Int :=
  match integerText? word with
  | some n => if ArithmeticToken.largest < n.natAbs then .error (.notInteger word) else .ok n
  | none => .error (.notInteger word)

/-- The answer to a comparison. -/
def answer (m : Machine) (test : BinaryTest) (a b : String) : Except ConditionFault Bool :=
  match test with
  | .same => .ok (a = b)
  | .differs => .ok (a ≠ b)
  | .before => .ok (a < b)
  | .behind => .ok (b < a)
  | .integers op => do
    let a ← integer a
    let b ← integer b
    .ok ((op.result a b).toOption.any (· ≠ 0))
  | .sameFile =>
    match m.place a, m.place b with
    | .ok a, .ok b => .ok (a = b)
    | _, _ => .ok false
  | .times => .ok false

end BinaryTest

namespace Condition

/-- What reading answers: an answer and the words that follow. -/
abbrev Reading (words : List String) := Except ConditionFault (Bool × Leftover words)

/-- The answer of a text, perhaps of a comparison with another one. -/
def simple (m : Machine) : (words : List String) → Reading words
  | [] => .ok (false, .all)
  | a :: rest =>
    match rest with
    | op :: others =>
      match ConditionMark.binary? op with
      | some test =>
        match others with
        | b :: last => do
          .ok (← test.answer m a b, ⟨last, Nat.le_succ_of_le (Nat.le_succ_of_le (Nat.le_succ _))⟩)
        | [] => .error (.missing op)
      | none => .ok (a ≠ "", ⟨op :: others, Nat.le_succ _⟩)
    | [] => .ok (a ≠ "", ⟨[], Nat.zero_le _⟩)

mutual

/-- Reads answers of which one is enough. -/
def either (m : Machine) (words : List String) : Reading words := do
  let (first, left) ← both m words
  match Remainder.after? "-o" left.val with
  | some next =>
    let next := next.within left.property
    let (second, last) ← either m next.val
    .ok (first || second, next.leave last)
  | none => .ok (first, left)
termination_by (words.length, 3)
decreasing_by
  · exact Prod.Lex.right _ (by decide)
  · exact Prod.Lex.left _ _ next.property

/-- Reads answers that all have to be given. -/
def both (m : Machine) (words : List String) : Reading words := do
  let (first, left) ← denied m words
  match Remainder.after? "-a" left.val with
  | some next =>
    let next := next.within left.property
    let (second, last) ← both m next.val
    .ok (first && second, next.leave last)
  | none => .ok (first, left)
termination_by (words.length, 2)
decreasing_by
  · exact Prod.Lex.right _ (by decide)
  · exact Prod.Lex.left _ _ next.property

/-- Reads an answer that may be denied. -/
def denied (m : Machine) (words : List String) : Reading words := do
  match Remainder.after? "!" words with
  | some next =>
    let (answer, left) ← denied m next.val
    .ok (!answer, next.leave left)
  | none => primary m words
termination_by (words.length, 1)
decreasing_by
  · exact Prod.Lex.left _ _ next.property
  · exact Prod.Lex.right _ (by decide)

/-- Reads one answer, or answers in brackets. -/
def primary (m : Machine) (words : List String) : Reading words :=
  match words with
  | [] => .ok (false, .all)
  | word :: rest =>
    match ConditionMark.first? (word :: rest) with
    | some .opening =>
      match Remainder.after? ")" rest with
      | some last => .ok (false, Remainder.tail.leave last.toLeftover)
      | none => do
        let (answer, left) ← either m rest
        match Remainder.after? ")" left.val with
        | some last => .ok (answer, Remainder.tail.leave (last.within left.property).toLeftover)
        | none => .error .unclosed
    | some (.unary test) =>
      match rest with
      | operand :: last => .ok (test.answer m operand, ⟨last, Nat.le_succ_of_le (Nat.le_succ _)⟩)
      | [] => .error (.missing word)
    | _ => simple m (word :: rest)
termination_by (words.length, 0)
decreasing_by exact Prod.Lex.left _ _ (Nat.lt_succ_self _)

end

/-- The answer to a condition that is read in the usual way. -/
def whole (m : Machine) (words : List String) : Except ConditionFault Bool := do
  let (answer, left) ← either m words
  if left.val.isEmpty then .ok answer
  else .error (.unexpected (words.getD (words.length - left.val.length - 1) ""))

/-- The answer to a condition. Of three words the middle one decides what is asked. -/
def evaluate (m : Machine) (words : List String) : Except ConditionFault Bool :=
  match words with
  | [a, op, b] =>
    match ConditionMark.binary? op with
    | some test => test.answer m a b
    | none => whole m words
  | words => whole m words

end Condition

end SignatureAudit.Emulation.Shell
