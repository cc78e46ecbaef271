import SignatureAudit.Emulation.Shell.Word
import SignatureAudit.Remainder
import SignatureAudit.Text.Digit

/-!
# Reading words

`Word.readBare` reads the word at the front of a script. Inside words stand other scripts, whose
commands are printed in their place; to find where such a script ends its quotes, comments,
documents and choices have to be followed.
-/

namespace SignatureAudit.Emulation.Shell

/-- What a script lacks where it ends. -/
inductive Unclosed
  | quotes
  | backquotes
  | braces
  | arithmetic
  | substitution
  deriving DecidableEq, Repr

/-- Where text stands. -/
inductive Place
  | bare
  | quotes
  /-- Inside the braces of an expansion, which may stand inside quotes. -/
  | braces (quoted : Bool)
  /-- Inside an arithmetic expression and so many brackets. -/
  | arithmetic (depth : Nat)
  /-- In a document inside the script. -/
  | document
  deriving DecidableEq, Repr

namespace Place

/-- Whether characters are quoted. -/
def isQuoted : Place → Bool
  | .bare | .braces false => false
  | _ => true

/-- What is unclosed if a script ends there. -/
def unclosed? : Place → Option Unclosed
  | .bare | .document => none
  | .quotes => some .quotes
  | .braces _ => some .braces
  | .arithmetic _ => some .arithmetic

/-- A character that a backslash takes its meaning from. -/
def isEscapable (place : Place) (c : Char) : Bool :=
  c == '$' || c == '\x60' || c == '\\' || (c == '"' && place != .document)
    || (c == '\x7d' && place == .braces true)

end Place

/-- A character between words. -/
def isGap (c : Char) : Bool := c == ' ' || c == '\t'

/-- A character that ends a word unless it is quoted. -/
def isMeta (c : Char) : Bool :=
  isGap c || c == '\n' || c == ';' || c == '&' || c == '|' || c == '(' || c == ')' || c == '<'
    || c == '>'

/-- A special parameter of one character. -/
def isSpecial (c : Char) : Bool :=
  c.isDigit || c == '?' || c == '#' || c == '$' || c == '!' || c == '-' || c == '@' || c == '*'

/-- Takes the name of a parameter in braces off the front of a text; it may be empty. -/
def parameterName (cs : List Char) : String × Leftover cs :=
  match cs with
  | [] => ("", .all)
  | c :: rest =>
    if c.isDigit then
      (String.ofList (c :: rest.takeWhile Char.isDigit),
        (Remainder.tail.dropWhile Char.isDigit).toLeftover)
    else if isNameChar c then
      (String.ofList (c :: rest.takeWhile isNameChar),
        (Remainder.tail.dropWhile isNameChar).toLeftover)
    else if isSpecial c then (String.singleton c, Remainder.tail.toLeftover)
    else ("", .all)

/-- What a character says about a parameter without a value. -/
def absence? : Char → Option Absence
  | '-' => some .other
  | '=' => some .assign
  | '?' => some .refuse
  | '+' => some .present
  | _ => none

/-- The text between backquotes, in which backslashes stand in front of some characters. -/
def backquoted (quoted : Bool) : (cs : List Char) → Except Unclosed (List Char × Remainder cs)
  | [] => .error .backquotes
  | '\x60' :: _ => .ok ([], .tail)
  | ['\\'] => .error .backquotes
  | '\\' :: c :: rest => do
    let (cs, left) ← backquoted quoted rest
    let kept := if c == '\x60' || c == '\\' || c == '$' || (c == '"' && quoted) then [c]
      else ['\\', c]
    .ok (kept ++ cs, Remainder.tail.widen (Remainder.tail.widen left))
  | c :: rest => do
    let (cs, left) ← backquoted quoted rest
    .ok (c :: cs, Remainder.tail.widen left)

/-- A document that is announced in a line and starts behind it: the line that ends it, and whether
tabs in front of its lines do not count. -/
structure Announced where
  ending : List Char
  tabs : Bool
  deriving DecidableEq, Repr

namespace Announced

/-- Takes the lines of a document off the front of a text. -/
def take (a : Announced) (cs : List Char) : List Char × Leftover cs :=
  match cs with
  | [] => ([], .all)
  | c :: rest =>
    let line := (c :: rest).takeWhile (· ≠ '\n')
    let kept := if a.tabs then line.dropWhile (· == '\t') else line
    match Remainder.first? (· ≠ '\n') (c :: rest) with
    | none => (if kept = a.ending then [] else kept, ⟨[], Nat.zero_le _⟩)
    | some (_, left) =>
      if kept = a.ending then ([], left.toLeftover)
      else
        let (more, last) := a.take left.val
        (kept ++ '\n' :: more, left.leave last)
termination_by cs.length
decreasing_by exact left.property

/-- What follows the documents that are announced. -/
def skip : List Announced → (cs : List Char) → Leftover cs
  | [], _ => .all
  | a :: rest, cs =>
    let (_, left) := a.take cs
    let last := skip rest left.val
    ⟨last.val, Nat.le_trans last.property left.property⟩

/-- The document that a word announces. -/
def ofWord (w : Word) (tabs : Bool) : Announced :=
  { tabs
    ending := w.filterMap fun
      | .char c _ => some c
      | _ => none }

end Announced

/-- What a script inside another is in the middle of. -/
inductive Nest
  | brackets
  /-- A choice in front of the word `in`. -/
  | subject
  /-- A choice where the patterns of a branch are. -/
  | patterns
  /-- A choice where the commands of a branch are. -/
  | branch
  deriving DecidableEq, Repr

/-- Where the reading of a script inside another stands. -/
structure Scan where
  nest : List Nest := []
  /-- Whether a command can start. -/
  starts : Bool := true
  announced : List Announced := []
  /-- Whether the next word ends a document, and whether tabs count in its lines. -/
  ending? : Option Bool := none

namespace Scan

/-- Words behind which a command can start. -/
def openers : List String :=
  ["if", "then", "else", "elif", "while", "until", "do", "\x7b", "!"]

/-- The scan behind a word. -/
def word (s : Scan) (w : Word) : Scan :=
  match s.ending? with
  | some tabs => { s with ending? := none, announced := s.announced ++ [.ofWord w tabs] }
  | none =>
    match s.nest, w.bare? with
    | .subject :: nest, some "in" => { s with nest := .patterns :: nest }
    | .patterns :: nest, some "esac" => { s with nest, starts := false }
    | nest, some text =>
      if s.starts && text == "case" then { s with nest := .subject :: nest, starts := false }
      else if s.starts && text == "esac" && nest.head? == some .branch then
        { s with nest := nest.tail, starts := false }
      else { s with starts := s.starts && openers.contains text }
    | _, none => { s with starts := false }

/-- The scan behind an operator. -/
def operator (s : Scan) : Scan := { s with starts := true }

/-- The scan behind an opening bracket. -/
def opened (s : Scan) : Scan :=
  if s.nest.head? == some .patterns then s
  else { s with nest := .brackets :: s.nest, starts := true }

/-- The scan behind a closing bracket, if it does not end the script. -/
def closed? (s : Scan) : Option Scan :=
  match s.nest with
  | [] => none
  | .patterns :: nest => some { s with nest := .branch :: nest, starts := true }
  | .brackets :: nest => some { s with nest, starts := false }
  | _ => none

/-- The scan behind the end of a branch. -/
def branchEnded (s : Scan) : Scan :=
  match s.nest with
  | .branch :: nest => { s with nest := .patterns :: nest, starts := true }
  | _ => s.operator

end Scan

/-- The parts of quotes. Quotes around all arguments are as many words as there are arguments,
perhaps none, while other quotes are a word even if it is empty. -/
def anchored (inner : Word) : Word :=
  let isAll : Part → Bool
    | .value "@" _ => true
    | _ => false
  if inner.any isAll then inner else .quotes :: inner

mutual

/-- Reads the parts of a word, up to the end of the place where it stands. -/
def parts (line : Nat) (place : Place) (cs : List Char) :
    Except Unclosed (Word × Leftover cs) :=
  match cs with
  | [] =>
    match place.unclosed? with
    | some unclosed => .error unclosed
    | none => .ok ([], .all)
  | '\\' :: rest =>
    match rest with
    | [] =>
      match place.unclosed? with
      | some unclosed => .error unclosed
      | none => .ok ([.char '\\' true], ⟨[], Nat.zero_le _⟩)
    | '\n' :: rest => do
      let (w, last) ← parts line place rest
      .ok (w, (Remainder.tail.widen .tail).leave last)
    | c :: rest =>
      if !place.isQuoted || place.isEscapable c then do
        let (w, last) ← parts line place rest
        .ok (.char c true :: w, (Remainder.tail.widen .tail).leave last)
      else do
        let (w, last) ← parts line place (c :: rest)
        .ok (.char '\\' true :: w, Remainder.tail.leave last)
  | '$' :: rest => do
    let (part, left) ← dollar line place rest
    let (w, last) ← parts line place left.val
    .ok (part :: w, (Remainder.tail.shrink left).leave last)
  | '\x60' :: rest => do
    let (script, left) ← backquoted (place == .quotes) rest
    let (w, last) ← parts line place left.val
    .ok (.command (String.ofList script) 1 place.isQuoted :: w,
      (Remainder.tail.widen left).leave last)
  | c :: rest =>
    if c == '\'' && !place.isQuoted then
      match Remainder.first? (· ≠ '\'') rest with
      | some (_, left) => do
        let (w, last) ← parts line place left.val
        .ok (.quotes :: Word.quoted (rest.takeWhile (· ≠ '\'')) ++ w,
          (Remainder.tail.widen left).leave last)
      | none => .error .quotes
    else if c == '"' && (!place.isQuoted || place == .braces true) then do
      let (inner, left) ← parts line .quotes rest
      let (w, last) ← parts line place left.val
      .ok (anchored inner ++ w, (Remainder.tail.shrink left).leave last)
    else if c == '"' && place == .quotes then .ok ([], Remainder.tail.toLeftover)
    else if place == .bare && isMeta c then .ok ([], .all)
    else
      match place with
      | .braces _ =>
        if c == '\x7d' then .ok ([], Remainder.tail.toLeftover)
        else do
          let (w, last) ← parts line place rest
          .ok (.char c place.isQuoted :: w, Remainder.tail.leave last)
      | .arithmetic depth =>
        if c == ')' && depth == 0 && rest.head? == some ')' then
          .ok ([], Remainder.tail.leave ⟨rest.tail, (List.tail_sublist rest).length_le⟩)
        else do
          let depth := if c == '(' then depth + 1 else if c == ')' then depth - 1 else depth
          let (w, last) ← parts line (.arithmetic depth) rest
          .ok (.char c true :: w, Remainder.tail.leave last)
      | _ => do
        let (w, last) ← parts line place rest
        .ok (.char c place.isQuoted :: w, Remainder.tail.leave last)
termination_by (cs.length, 0)
decreasing_by
  all_goals exact Prod.Lex.left _ _ (by simp only [List.length_cons]; omega)

/-- Reads an expansion behind its dollar sign, which stands for itself if nothing fits. -/
def dollar (line : Nat) (place : Place) (cs : List Char) : Except Unclosed (Part × Leftover cs) :=
  match cs with
  | '(' :: '(' :: rest => do
    let (w, left) ← parts line (.arithmetic 0) rest
    .ok (.arithmetic w place.isQuoted,
      (Remainder.tail.widen (Remainder.tail (a := '(') (l := rest))).leave left)
  | '(' :: rest => do
    let left ← closing line {} rest
    .ok (.command (String.ofList (rest.take (rest.length - left.val.length - 1))) line
      place.isQuoted, (Remainder.tail.widen left).toLeftover)
  | '\x7b' :: rest => do
    let (part, left) ← braces line place.isQuoted rest
    .ok (part, Remainder.tail.leave left)
  | c :: rest =>
    if isNameChar c && !c.isDigit then
      .ok (.value (String.ofList (c :: rest.takeWhile isNameChar)) place.isQuoted,
        (Remainder.tail.dropWhile isNameChar).toLeftover)
    else if isSpecial c then
      .ok (.value (String.singleton c) place.isQuoted, Remainder.tail.toLeftover)
    else .ok (.char '$' place.isQuoted, .all)
  | [] => .ok (.char '$' place.isQuoted, .all)
termination_by (cs.length, 0)

/-- Reads an expansion behind its opening brace. -/
def braces (line : Nat) (quoted : Bool) (cs : List Char) : Except Unclosed (Part × Leftover cs) :=
  match cs with
  | '#' :: rest =>
    let (name, left) := parameterName rest
    match Remainder.after? '\x7d' left.val with
    | some last =>
      .ok (if name = "" then .value "#" quoted else .length name quoted,
        Remainder.tail.leave (last.within left.property).toLeftover)
    | none => do
      let (part, last) ← operation line quoted "#" rest
      .ok (part, Remainder.tail.leave last)
  | cs => do
    let ⟨name, ⟨rest, fits⟩⟩ := parameterName cs
    let (part, last) ← operation line quoted name rest
    .ok (part, ⟨last.val, Nat.le_trans last.property fits⟩)
termination_by (cs.length, 2)
decreasing_by
  · exact Prod.Lex.left _ _ (by simp only [List.length_cons]; omega)
  · exact Prod.lex_def.2 (by dsimp only; omega)

/-- Reads what is done with a parameter in braces. -/
def operation (line : Nat) (quoted : Bool) (name : String) (cs : List Char) :
    Except Unclosed (Part × Leftover cs) :=
  match cs with
  | [] => .error .braces
  | '\x7d' :: _ =>
    .ok (if name = "" then .faulty else .value name quoted, Remainder.tail.toLeftover)
  | ':' :: c :: rest => do
    let (w, left) ← parts line (.braces quoted) rest
    let part := match absence? c with
      | some absence => .alternative name absence true w quoted
      | none => .faulty
    .ok (if name = "" then .faulty else part,
      (Remainder.tail.widen (Remainder.tail (a := c) (l := rest))).leave left)
  | '%' :: '%' :: rest => do
    let (w, left) ← parts line (.braces false) rest
    .ok (if name = "" then .faulty else .trimmed name true true w quoted,
      (Remainder.tail.widen (Remainder.tail (a := '%') (l := rest))).leave left)
  | '#' :: '#' :: rest => do
    let (w, left) ← parts line (.braces false) rest
    .ok (if name = "" then .faulty else .trimmed name false true w quoted,
      (Remainder.tail.widen (Remainder.tail (a := '#') (l := rest))).leave left)
  | c :: rest =>
    if c == '%' || c == '#' then do
      let (w, left) ← parts line (.braces false) rest
      .ok (if name = "" then .faulty else .trimmed name (c == '%') false w quoted,
        Remainder.tail.leave left)
    else do
      let (w, left) ← parts line (.braces quoted) rest
      let part := match absence? c with
        | some absence => .alternative name absence false w quoted
        | none => .faulty
      .ok (if name = "" then .faulty else part, Remainder.tail.leave left)
termination_by (cs.length, 1)

/-- What follows the bracket that closes a script inside another. -/
def closing (line : Nat) (s : Scan) (cs : List Char) : Except Unclosed (Remainder cs) :=
  match cs with
  | [] => .error .substitution
  | c :: rest =>
    if isGap c then do
      let last ← closing line s rest
      .ok (Remainder.tail.widen last)
    else if c == '\n' then do
      let ⟨left, fits⟩ := Announced.skip s.announced rest
      let last ← closing line { s.operator with announced := [] } left
      .ok (Remainder.tail.shrink ⟨last.val, Nat.le_trans (Nat.le_of_lt last.property) fits⟩)
    else if c == '#' then do
      let ⟨left, fits⟩ : Leftover rest :=
        ⟨rest.dropWhile (· ≠ '\n'), (List.dropWhile_sublist _).length_le⟩
      let last ← closing line s left
      .ok (Remainder.tail.shrink ⟨last.val, Nat.le_trans (Nat.le_of_lt last.property) fits⟩)
    else if c == '(' then do
      let last ← closing line s.opened rest
      .ok (Remainder.tail.widen last)
    else if c == ')' then
      match s.closed? with
      | none => .ok .tail
      | some s => do
        let last ← closing line s rest
        .ok (Remainder.tail.widen last)
    else if c == ';' && rest.head? == some ';' then do
      let last ← closing line s.branchEnded rest
      .ok (Remainder.tail.widen last)
    else if c == '<' && rest.head? == some '<' then do
      let tabs := rest.tail.head? == some '-'
      let ⟨left, fits⟩ : Leftover rest :=
        ⟨rest.drop (if tabs then 2 else 1), (List.drop_sublist _ rest).length_le⟩
      let last ← closing line { s with ending? := some tabs } left
      .ok (Remainder.tail.shrink ⟨last.val, Nat.le_trans (Nat.le_of_lt last.property) fits⟩)
    else if isMeta c then do
      let last ← closing line (if c == ';' && s.nest.head? == some .patterns then s
        else s.operator) rest
      .ok (Remainder.tail.widen last)
    else do
      let ⟨w, ⟨left, _⟩⟩ ← parts line .bare (c :: rest)
      if shorter : left.length < (c :: rest).length then
        let last ← closing line (s.word w) left
        .ok (Remainder.widen ⟨left, shorter⟩ last)
      else .error .substitution
termination_by (cs.length, 3)
decreasing_by
  all_goals try exact Prod.Lex.left _ _ (by simp only [List.length_cons]; omega)
  · exact Prod.Lex.right _ (by decide)

end

/-- Reads the word at the front of a script, which may be empty. -/
def Word.readBare (line : Nat) (cs : List Char) : Except Unclosed (Word × Leftover cs) :=
  parts line .bare cs

/-- The word that a document is. -/
def Word.ofDocument (line : Nat) (cs : List Char) : Except Unclosed Word := do
  .ok (← parts line .document cs).1

end SignatureAudit.Emulation.Shell
