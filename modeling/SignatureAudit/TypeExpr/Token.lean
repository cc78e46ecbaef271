import SignatureAudit.Text.Blank

/-!
# Tokens of a type expression

A type expression is written with words, brackets and commas; blanks separate tokens and mean
nothing else. A word is a maximal run of ASCII letters, ASCII digits and underscores. Each token
knows the byte offset at which it starts, for the messages of the reader.
-/

namespace SignatureAudit.TypeExpr

/-- An ASCII letter, an ASCII digit or an underscore. -/
def isWordChar (c : Char) : Bool := c.isAlphanum || c == '_'

/-- What a token says. -/
inductive Lexeme
  | word (text : String)
  | opening
  | closing
  | comma
  /-- A character that no type expression contains. -/
  | stray (c : Char)
  deriving DecidableEq, Repr

/-- A lexeme and the byte offset of its first character. -/
structure Token where
  lexeme : Lexeme
  offset : Nat
  deriving DecidableEq, Repr

/-- The lexeme of a single character that is neither blank nor part of a word. -/
def Lexeme.ofChar (c : Char) : Lexeme :=
  if c = '[' then .opening else if c = ']' then .closing else if c = ',' then .comma else .stray c

/-- The first character of a lexeme. -/
def Lexeme.first : Lexeme → Char
  | .word text => text.toList.headD '_'
  | .opening => '['
  | .closing => ']'
  | .comma => ','
  | .stray c => c

/-- Puts a word character in front of tokens: it joins a word that starts right after it. -/
def Token.joinWord (c : Char) (offset : Nat) : List Token → List Token
  | ⟨.word text, start⟩ :: rest =>
    if start = offset + 1 then ⟨.word (String.singleton c ++ text), offset⟩ :: rest
    else ⟨.word (String.singleton c), offset⟩ :: ⟨.word text, start⟩ :: rest
  | tokens => ⟨.word (String.singleton c), offset⟩ :: tokens

/-- The tokens of a text that starts at the given byte offset. -/
def tokensFrom (offset : Nat) : List Char → List Token
  | [] => []
  | c :: cs =>
    let later := tokensFrom (offset + c.utf8Size) cs
    if isWordChar c then Token.joinWord c offset later
    else if Text.isBlank c then later
    else ⟨.ofChar c, offset⟩ :: later

/-- The tokens of a type expression. -/
def tokens (text : String) : List Token := tokensFrom 0 text.toList

end SignatureAudit.TypeExpr
