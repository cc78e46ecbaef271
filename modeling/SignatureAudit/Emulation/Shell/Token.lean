import SignatureAudit.Emulation.Shell.Lexer

/-!
# Tokens of shell scripts

A script is cut into words, operators and line ends. Comments and escaped line ends are no tokens; a
document that is announced in a line belongs to the token that announces it. The last token of a
script is its end, or what is unclosed there.
-/

namespace SignatureAudit.Emulation.Shell

/-- Where a redirection leads. -/
inductive Direction
  /-- From a file. -/
  | input
  /-- To a file, which is emptied first. -/
  | output
  /-- To the end of a file. -/
  | append
  /-- From and to a file. -/
  | both
  /-- To where another descriptor leads. -/
  | duplicate
  deriving DecidableEq, Repr

/-- A token that stands between commands. -/
inductive Mark
  | lineEnd
  | semicolon
  /-- The end of a branch. -/
  | branchEnd
  | background
  | both
  | either
  | bar
  | opening
  | closing
  /-- The end of the script. -/
  | finish
  deriving DecidableEq, Repr

/-- A token of a script. -/
inductive Token
  | word (word : Word)
  /-- The redirection of a descriptor to the next word. -/
  | redirect (descriptor : Nat) (direction : Direction)
  /-- The redirection of a descriptor to a document. -/
  | document (descriptor : Nat) (text : Word)
  | mark (mark : Mark)
  /-- The script ends while something is open. -/
  | unclosed (unclosed : Unclosed)
  deriving Repr, Inhabited

/-- A token and the line on which it ends. -/
structure Lexeme where
  token : Token
  line : Nat
  deriving Repr, Inhabited

namespace Token

/-- Reads the operator of a redirection to a word; without a number it is about the standard input
or the standard output. -/
def redirect? (descriptor? : Option Nat) : (cs : List Char) → Option (Token × Remainder cs)
  | '<' :: '&' :: _ => some (.redirect (descriptor?.getD 0) .duplicate, Remainder.tail.widen .tail)
  | '<' :: '>' :: _ => some (.redirect (descriptor?.getD 0) .both, Remainder.tail.widen .tail)
  | '<' :: _ => some (.redirect (descriptor?.getD 0) .input, .tail)
  | '>' :: '>' :: _ => some (.redirect (descriptor?.getD 1) .append, Remainder.tail.widen .tail)
  | '>' :: '&' :: _ => some (.redirect (descriptor?.getD 1) .duplicate, Remainder.tail.widen .tail)
  | '>' :: '|' :: _ => some (.redirect (descriptor?.getD 1) .output, Remainder.tail.widen .tail)
  | '>' :: _ => some (.redirect (descriptor?.getD 1) .output, .tail)
  | _ => none

/-- Reads an operator. -/
def operator? : (cs : List Char) → Option (Token × Remainder cs)
  | ';' :: ';' :: _ => some (.mark .branchEnd, Remainder.tail.widen .tail)
  | ';' :: _ => some (.mark .semicolon, .tail)
  | '&' :: '&' :: _ => some (.mark .both, Remainder.tail.widen .tail)
  | '&' :: _ => some (.mark .background, .tail)
  | '|' :: '|' :: _ => some (.mark .either, Remainder.tail.widen .tail)
  | '|' :: _ => some (.mark .bar, .tail)
  | '(' :: _ => some (.mark .opening, .tail)
  | ')' :: _ => some (.mark .closing, .tail)
  | cs => redirect? none cs

/-- Reads a redirection with a descriptor of one digit. -/
def numbered? : (cs : List Char) → Option (Token × Remainder cs)
  | [] => none
  | d :: rest =>
    if d.isDigit then
      (redirect? (some (Text.digitValue d)) rest).map fun (token, left) =>
        (token, Remainder.tail.widen left)
    else none

/-- Reads the operator that announces a document; tells the descriptor and whether tabs in front of
lines do not count. -/
def announcement? : (cs : List Char) → Option ((Nat × Bool) × Remainder cs)
  | '<' :: '<' :: '-' :: _ =>
    some ((0, true), Remainder.tail.widen (Remainder.tail.widen .tail))
  | '<' :: '<' :: _ => some ((0, false), Remainder.tail.widen .tail)
  | d :: '<' :: '<' :: '-' :: _ =>
    if d.isDigit then
      some ((Text.digitValue d, true),
        Remainder.tail.widen (Remainder.tail.widen (Remainder.tail.widen .tail)))
    else none
  | d :: '<' :: '<' :: _ =>
    if d.isDigit then
      some ((Text.digitValue d, false), Remainder.tail.widen (Remainder.tail.widen .tail))
    else none
  | _ => none

/-- The text of a token that is a word without quotes and expansions. -/
def bare? : Token → Option String
  | .word w => w.bare?
  | _ => none

end Token

/-- A token of a line whose documents have not been read yet. -/
inductive Drafted
  | lexeme (lexeme : Lexeme)
  /-- A document, and whether its text stands for itself. -/
  | document (descriptor : Nat) (announced : Announced) (literal : Bool) (line : Nat)

namespace Drafted

/-- Whether a word has quotes. -/
def isLiteral (w : Word) : Bool :=
  w.any fun
    | .char _ quoted => quoted
    | .quotes => true
    | _ => false

/-- The word that the text of a document is. -/
def textOf (line : Nat) (literal : Bool) (text : List Char) : Word :=
  if literal then Word.quoted text
  else
    match Word.ofDocument line text with
    | .ok w => w
    | .error _ => [.faulty]

/-- The tokens of a line, whose documents follow it, and what follows the documents. -/
def finish (line : Nat) : List Drafted → (cs : List Char) → List Lexeme × Leftover cs
  | [], _ => ([], .all)
  | .lexeme read :: rest, cs =>
    let (lexemes, left) := finish line rest cs
    (read :: lexemes, left)
  | .document descriptor announced literal at_ :: rest, cs =>
    let (text, left) := announced.take cs
    let (lexemes, last) := finish line rest left.val
    (⟨.document descriptor (textOf line literal text), at_⟩ :: lexemes,
      ⟨last.val, Nat.le_trans last.property left.property⟩)

end Drafted

/-- The number of lines that end in a text in front of what is left of it. -/
def linesBefore (cs left : List Char) : Nat :=
  ((cs.take (cs.length - left.length)).filter (· == '\n')).length

/-- The tokens of a script, of whose first line some have been read already, the last of them
first. -/
def lexemesFrom (line : Nat) (draft : List Drafted) (cs : List Char) : List Lexeme :=
  let ended (token : Token) : List Lexeme :=
    ((Drafted.lexeme ⟨token, line⟩ :: draft).reverse |> (Drafted.finish line · [])).1
  match cs with
  | [] => ended (.mark .finish)
  | '\\' :: '\n' :: rest => lexemesFrom (line + 1) draft rest
  | c :: rest =>
    if isGap c then lexemesFrom line draft rest
    else if c == '#' then
      let ⟨left, _⟩ : Leftover rest :=
        ⟨rest.dropWhile (· ≠ '\n'), (List.dropWhile_sublist _).length_le⟩
      lexemesFrom line draft left
    else if c == '\n' then
      let ⟨lexemes, ⟨left, _⟩⟩ :=
        Drafted.finish (line + 1) (Drafted.lexeme ⟨.mark .lineEnd, line + 1⟩ :: draft).reverse rest
      lexemes ++ lexemesFrom (line + 1 + linesBefore rest left) [] left
    else
      match Token.announcement? (c :: rest) with
      | some ((descriptor, tabs), ⟨left, _⟩) =>
        match Word.readBare line (left.dropWhile isGap) with
        | .error unclosed => ended (.unclosed unclosed)
        | .ok (w, ⟨last, _fits⟩) =>
          have := (List.dropWhile_sublist (l := left) isGap).length_le
          if w.isEmpty then
            lexemesFrom line (.lexeme ⟨.redirect descriptor .input, line⟩ :: draft) left
          else
            lexemesFrom line
              (.document descriptor (.ofWord w tabs) (Drafted.isLiteral w) line :: draft) last
      | none =>
        match Token.numbered? (c :: rest) <|> Token.operator? (c :: rest) with
        | some (token, ⟨left, _⟩) => lexemesFrom line (.lexeme ⟨token, line⟩ :: draft) left
        | none =>
          match Word.readBare line (c :: rest) with
          | .error unclosed =>
            (Drafted.finish line (Drafted.lexeme ⟨.unclosed unclosed,
              line + linesBefore (c :: rest) []⟩ :: draft).reverse []).1
          | .ok (w, ⟨left, _⟩) =>
            if _shorter : left.length < (c :: rest).length then
              let line := line + linesBefore (c :: rest) left
              lexemesFrom line (.lexeme ⟨.word w, line⟩ :: draft) left
            else ended (.mark .finish)
termination_by cs.length
decreasing_by
  all_goals simp_all only [List.length_cons]
  all_goals omega

/-- The tokens of a script whose first line has the given number. -/
def lexemes (line : Nat) (script : String) : List Lexeme := lexemesFrom line [] script.toList

end SignatureAudit.Emulation.Shell
