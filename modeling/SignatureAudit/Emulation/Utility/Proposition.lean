import SignatureAudit.Emulation.Shell.Condition
import SignatureAudit.Emulation.Utility.Basic

/-!
# The program that answers conditions

A condition of up to four words is read by their number, so that a word that looks like an operator
can be a text. A longer one has alternatives, each of which has parts that all have to hold. What
stands in brackets is read in the same way again.
-/

namespace SignatureAudit.Emulation.Utility

open Shell (BinaryTest ConditionMark Machine UnaryTest Utility)

/-- Why a condition has no answer. -/
inductive PropositionFault
  | missingAfter (word : String)
  | extra (word : String)
  | notUnary (word : String)
  | notBinary (word : String)
  | unclosed (found? : Option String)
  | notInteger (word : String)
  /-- A comparison of files is asked to compare lengths. -/
  | noLength (sign : String)
  deriving DecidableEq, Repr

/-- The wording of a fault. -/
def PropositionFault.message : PropositionFault → String
  | .missingAfter word => "missing argument after " ++ quoted word
  | .extra word => "extra argument " ++ quoted word
  | .notUnary word => quoted word ++ ": unary operator expected"
  | .notBinary word => quoted word ++ ": binary operator expected"
  | .unclosed none => "')' expected"
  | .unclosed (some word) => "')' expected, found " ++ quoted word
  | .notInteger word => "invalid integer " ++ quoted word
  | .noLength sign => sign ++ " does not accept -l"

namespace Proposition

/-- What reading answers: an answer and the words that follow. -/
abbrev Reading (words : List String) := Except PropositionFault (Bool × Remainder words)

/-- The question about one word that a word asks. -/
def unary? (word : String) : Option UnaryTest :=
  if word = "-N" then some .never
  else
    match ConditionMark.spellings.lookup word with
    | some (.unary test) => some test
    | _ => none

/-- The comparison that a word asks for. -/
def binary? (word : String) : Option BinaryTest :=
  if word = "==" then some .same
  else
    match ConditionMark.binary? word with
    | some .before | some .behind => none
    | test? => test?

/-- Whether a word has the form of a question: a dash and one more character. -/
def asks (word : String) : Bool :=
  match word.toList with
  | ['-', _] => true
  | _ => false

/-- The integer that a word writes. -/
def integer (word : String) : Except PropositionFault Int :=
  match BinaryTest.integerText? word with
  | some n => .ok n
  | none => .error (.notInteger word)

/-- One side of a comparison: a text, or the length of one. -/
structure Side where
  text : String
  length : Bool := false

/-- The number that a side of a comparison stands for. -/
def Side.number (side : Side) : Except PropositionFault Int :=
  if side.length then .ok side.text.length else integer side.text

/-- The answer to a comparison. -/
def compareSides (m : Machine) (sign : String) (test : BinaryTest) (first second : Side) :
    Except PropositionFault Bool :=
  match test with
  | .integers op => do
    let a ← first.number
    let b ← second.number
    .ok ((op.result a b).toOption.any (· ≠ 0))
  | .same => .ok (first.text = second.text)
  | .differs => .ok (first.text ≠ second.text)
  | test =>
    if first.length || second.length then .error (.noLength sign)
    else .ok ((test.answer m first.text second.text).toOption.getD false)

/-- The answer of a word that is a text. -/
def ofText (last : String) : (words : List String) → Reading words
  | [] => .error (.missingAfter last)
  | word :: _ => .ok (word ≠ "", .tail)

/-- The answer to a question about one word. -/
def ofQuestion (m : Machine) (last : String) : (words : List String) → Reading words
  | [] => .error (.missingAfter last)
  | sign :: rest =>
    match unary? sign with
    | none => .error (.notUnary sign)
    | some test =>
      match rest with
      | [] => .error (.missingAfter last)
      | word :: _ =>
        if test = .isTerminal then do
          let _ ← integer word
          .ok (false, Remainder.tail.widen .tail)
        else .ok (test.answer m word, Remainder.tail.widen .tail)

/-- The answer to a comparison of a first side with what the words name. -/
def ofComparison (m : Machine) (last : String) (first : Side) :
    (words : List String) → Reading words
  | sign :: rest =>
    match binary? sign with
    | none => .error (.notBinary sign)
    | some test =>
      match rest with
      | "-l" :: text :: _ => do
        .ok (← compareSides m sign test first ⟨text, true⟩,
          Remainder.tail.widen (Remainder.tail.widen .tail))
      | text :: _ => do
        .ok (← compareSides m sign test first ⟨text, false⟩, Remainder.tail.widen .tail)
      | [] => .error (.missingAfter last)
  | [] => .error (.missingAfter last)

/-- The answer of two words. -/
def ofTwo (m : Machine) (last : String) : (words : List String) → Reading words
  | "!" :: rest => do
    let (answer, left) ← ofText last rest
    .ok (!answer, Remainder.tail.widen left)
  | sign :: rest =>
    if asks sign then ofQuestion m last (sign :: rest) else .error (.missingAfter last)
  | [] => .error (.missingAfter last)

/-- How many words the condition in brackets has: those in front of the bracket that closes it, if
it stands near enough, or else all. -/
def countOf (words : List String) : Nat :=
  match (words.drop 1).findIdx? (· = ")") with
  | some i => if i < 4 then i + 1 else words.length
  | none => words.length

mutual

/-- The answer of a condition of so many words. -/
def ofWords (m : Machine) (last : String) (count : Nat) (words : List String) : Reading words :=
  match count, words with
  | 1, words => ofText last words
  | 2, words => ofTwo m last words
  | 3, words => ofThree m last words
  | 4, "!" :: rest => do
    let (answer, left) ← ofThree m last rest
    .ok (!answer, Remainder.tail.widen left)
  | 4, "(" :: first :: second :: ")" :: rest => do
    let (answer, _) ← ofTwo m last [first, second]
    .ok (answer, ⟨rest, by simp only [List.length_cons]; omega⟩)
  | _, words => alternatives m last words
termination_by (words.length, 4)
decreasing_by
  · exact Prod.Lex.right _ (by decide)
  · exact Prod.Lex.left _ _ (Nat.lt_succ_self _)
  · exact Prod.Lex.right _ (by decide)

/-- The answer of three words: the one in the middle decides first. -/
def ofThree (m : Machine) (last : String) (words : List String) : Reading words :=
  match words with
  | first :: middle :: third :: rest =>
    if (binary? middle).isSome then do
      let (answer, left) ← ofComparison m last ⟨first, false⟩ (middle :: third :: rest)
      .ok (answer, Remainder.tail.widen left)
    else if first = "!" then do
      let (answer, left) ← ofTwo m last (middle :: third :: rest)
      .ok (!answer, Remainder.tail.widen left)
    else if first = "(" && third = ")" then
      .ok (middle ≠ "", Remainder.tail.widen (Remainder.tail.widen .tail))
    else if middle = "-a" || middle = "-o" then
      alternatives m last (first :: middle :: third :: rest)
    else .error (.notBinary middle)
  | _ => .error (.missingAfter last)
termination_by (words.length, 3)
decreasing_by exact Prod.Lex.right _ (by decide)

/-- The answers of which one has to hold. -/
def alternatives (m : Machine) (last : String) (words : List String) : Reading words := do
  let (first, left) ← parts m last words
  match Remainder.after? "-o" left.val with
  | some next =>
    let (second, rest) ← alternatives m last (left.widen next).val
    .ok (first || second, (left.widen next).widen rest)
  | none => .ok (first, left)
termination_by (words.length, 2)
decreasing_by
  · exact Prod.Lex.right _ (by decide)
  · exact Prod.Lex.left _ _ (left.widen next).property

/-- The answers that all have to hold. -/
def parts (m : Machine) (last : String) (words : List String) : Reading words := do
  let (first, left) ← term m last words
  match Remainder.after? "-a" left.val with
  | some next =>
    let (second, rest) ← parts m last (left.widen next).val
    .ok (first && second, (left.widen next).widen rest)
  | none => .ok (first, left)
termination_by (words.length, 1)
decreasing_by
  · exact Prod.Lex.right _ (by decide)
  · exact Prod.Lex.left _ _ (left.widen next).property

/-- One answer, which may be denied or stand in brackets. -/
def term (m : Machine) (last : String) (words : List String) : Reading words :=
  match words with
  | [] => .error (.missingAfter last)
  | "!" :: rest => do
    let (answer, left) ← term m last rest
    .ok (!answer, Remainder.tail.widen left)
  | "(" :: [] => .error (.missingAfter last)
  | "(" :: rest => do
    let (answer, left) ← ofWords m last (countOf rest) rest
    match left.val with
    | [] => .error (.unclosed none)
    | _ =>
      match Remainder.after? ")" left.val with
      | some next => .ok (answer, Remainder.tail.widen (left.widen next))
      | none => .error (.unclosed left.val.head?)
  | word :: rest =>
    match word, rest with
    | "-l", text :: sign :: second :: others =>
      if (binary? sign).isSome then do
        let (answer, left) ← ofComparison m last ⟨text, true⟩ (sign :: second :: others)
        .ok (answer, Remainder.tail.widen (Remainder.tail.widen left))
      else if (binary? text).isSome then do
        let (answer, left) ← ofComparison m last ⟨word, false⟩ (text :: sign :: second :: others)
        .ok (answer, Remainder.tail.widen left)
      else ofQuestion m last ("-l" :: text :: sign :: second :: others)
    | word, sign :: second :: others =>
      if (binary? sign).isSome then do
        let (answer, left) ← ofComparison m last ⟨word, false⟩ (sign :: second :: others)
        .ok (answer, Remainder.tail.widen left)
      else if asks word then ofQuestion m last (word :: sign :: second :: others)
      else ofText last (word :: sign :: second :: others)
    | word, rest =>
      if asks word then ofQuestion m last (word :: rest) else ofText last (word :: rest)
termination_by (words.length, 0)
decreasing_by
  · exact Prod.Lex.left _ _ (Nat.lt_succ_self _)
  · exact Prod.Lex.left _ _ (Nat.lt_succ_self _)

end

/-- The answer of a condition. -/
def answer (m : Machine) (words : List String) : Except PropositionFault Bool := do
  if words.isEmpty then .ok false
  else
    let (answer, left) ← ofWords m (words.getLast?.getD "") words.length words
    match left.val with
    | [] => .ok answer
    | word :: _ => .error (.extra word)

end Proposition

/-- Answers a condition. -/
def test : Utility := fun _ args => do
  match Proposition.answer (← get) args with
  | .ok answer => pure (if answer then 0 else 1)
  | .error fault => fail fault.message 2

/-- Answers a condition that ends with a bracket. -/
def bracket : Utility := fun start args =>
  if args.getLast? = some "]" then test start args.dropLast else fail "missing ']'" 2

end SignatureAudit.Emulation.Utility
