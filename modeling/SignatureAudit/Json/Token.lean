import SignatureAudit.Json.Basic
import SignatureAudit.Remainder
import SignatureAudit.Text.Digit

/-!
# Tokens of a JSON document

Strings are read with their escapes, numbers keep their literal. `tokens?` answers nothing for a
text with a character, escape, number or word that JSON does not have.
-/

namespace SignatureAudit.Json

/-- The white space between tokens. -/
def isSpace (c : Char) : Bool := c == ' ' || c == '\n' || c == '\t' || c == '\r'

/-- The code of a one-letter escape. -/
def shortEscape? : Char → Option Nat
  | '"' => some 0x22
  | '\\' => some 0x5C
  | '/' => some 0x2F
  | 'b' => some 0x08
  | 'f' => some 0x0C
  | 'n' => some 0x0A
  | 'r' => some 0x0D
  | 't' => some 0x09
  | _ => none

/-- Reads an escape behind its backslash. -/
def escape? : (cs : List Char) → Option (Nat × Remainder cs)
  | 'u' :: rest => (Text.hex? 4 rest).map fun (code, left) => (code, Remainder.tail.shrink left)
  | c :: _ => (shortEscape? c).map fun code => (code, .tail)
  | [] => none

/-- Reads the codes of a string behind its opening quote, up to the closing one. A code is a code
point or one half of a surrogate pair. -/
def codes? (cs : List Char) : Option (List Nat × Remainder cs) :=
  match cs with
  | [] => none
  | c :: rest =>
    if c = '"' then some ([], .tail)
    else if c = '\\' then do
      let (code, left) ← escape? rest
      let (codes, last) ← codes? left.val
      some (code :: codes, Remainder.tail.widen (left.widen last))
    else if c.toNat < 0x20 then none
    else do
      let (codes, last) ← codes? rest
      some (c.toNat :: codes, Remainder.tail.widen last)
termination_by cs.length
decreasing_by
  · have := left.property
    simp
    omega
  · simp

/-- The text of some codes, in which two halves of a surrogate pair form one character. -/
def textOfCodes? : List Nat → Option (List Char)
  | [] => some []
  | high :: low :: rest =>
    if 0xD800 ≤ high && high < 0xDC00 then
      if 0xDC00 ≤ low && low < 0xE000 then
        let code := 0x10000 + (high - 0xD800) * 0x400 + (low - 0xDC00)
        (textOfCodes? rest).map (Char.ofNat code :: ·)
      else none
    else if 0xDC00 ≤ high && high < 0xE000 then none
    else (textOfCodes? (low :: rest)).map (Char.ofNat high :: ·)
  | [code] => if 0xD800 ≤ code && code < 0xE000 then none else some [Char.ofNat code]

/-- What follows a nonempty run of digits. -/
def afterDigits? (cs : List Char) : Option (List Char) :=
  if (cs.takeWhile Char.isDigit).isEmpty then none else some (cs.dropWhile Char.isDigit)

/-- What follows the integer part of a number: a zero, or digits that do not start with one. -/
def afterInteger? : List Char → Option (List Char)
  | '0' :: rest => some rest
  | cs => afterDigits? cs

/-- What follows the fraction of a number, if it has one. -/
def afterFraction? : List Char → Option (List Char)
  | '.' :: rest => afterDigits? rest
  | cs => some cs

/-- What follows the exponent of a number, if it has one. -/
def afterExponent? : List Char → Option (List Char)
  | e :: rest =>
    if e = 'e' || e = 'E' then
      match rest with
      | sign :: digits =>
        if sign = '+' || sign = '-' then afterDigits? digits else afterDigits? rest
      | [] => none
    else some (e :: rest)
  | [] => some []

/-- Whether a text is a number literal. -/
def isNumber (cs : List Char) : Bool :=
  let unsigned := match cs with
    | '-' :: rest => rest
    | cs => cs
  ((afterInteger? unsigned).bind afterFraction? |>.bind afterExponent?) == some []

/-- A character that a number literal can contain. -/
def isNumberChar (c : Char) : Bool :=
  c.isDigit || c == '-' || c == '+' || c == '.' || c == 'e' || c == 'E'

/-- The token of a single punctuation character. -/
def punctuation? : Char → Option Token
  | '[' => some (.opening false)
  | ']' => some (.closing false)
  | '\x7b' => some (.opening true)
  | '\x7d' => some (.closing true)
  | ':' => some .colon
  | ',' => some .comma
  | _ => none

/-- The token of a word. -/
def word? (cs : List Char) : Option Token :=
  if cs = ['n', 'u', 'l', 'l'] then some .null
  else if cs = ['t', 'r', 'u', 'e'] then some (.bool true)
  else if cs = ['f', 'a', 'l', 's', 'e'] then some (.bool false)
  else none

/-- Reads the token at the front of a text that does not start with white space. -/
def token? : (cs : List Char) → Option (Token × Remainder cs)
  | [] => none
  | c :: rest =>
    match punctuation? c with
    | some token => some (token, .tail)
    | none =>
      if c = '"' then do
        let (codes, left) ← codes? rest
        some (.string ((textOfCodes? codes).map String.ofList), Remainder.tail.widen left)
      else if c.isDigit || c = '-' then
        let literal := c :: rest.takeWhile isNumberChar
        if isNumber literal then
          some (.number (String.ofList literal), Remainder.tail.dropWhile isNumberChar)
        else none
      else do
        let token ← word? (c :: rest.takeWhile Char.isAlpha)
        some (token, Remainder.tail.dropWhile Char.isAlpha)

/-- The tokens of a text, if it consists of tokens and white space. -/
def tokensOf? (cs : List Char) : Option (List Token) :=
  match cs with
  | [] => some []
  | c :: rest =>
    if isSpace c then tokensOf? rest
    else do
      let (token, left) ← token? (c :: rest)
      let tokens ← tokensOf? left.val
      some (token :: tokens)
termination_by cs.length
decreasing_by
  · simp
  · exact left.property

end SignatureAudit.Json
