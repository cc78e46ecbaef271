import SignatureAudit.Emulation.Shell.Format
import SignatureAudit.Emulation.Text.Regex.Reader

/-!
# Tokens of scripts for records

A slash begins a regular expression where a value can begin, and means a division where one has
ended. A name with a parenthesis right behind it is that of a function.
-/

namespace SignatureAudit.Emulation.Utility.Record

/-- A token. -/
inductive Token
  | number (value : Float) (text : String)
  | text (text : String)
  | regex (text : String)
  | name (name : String)
  /-- The name of a function and the parenthesis behind it. -/
  | function (name : String)
  | builtin (name : String)
  | keyword (word : String)
  | sign (sign : String)
  | newline
  deriving Inhabited

namespace Token

/-- The words that have a meaning of their own. -/
def keywords : List String :=
  ["BEGIN", "END", "function", "func", "if", "else", "while", "for", "do", "break", "continue",
   "next",
   "nextfile", "exit", "return", "delete", "in", "getline", "print", "printf"]

/-- The names of the functions that every script knows. -/
def builtins : List String :=
  ["length", "substr", "index", "split", "sub", "gsub", "match", "sprintf", "sin", "cos", "atan2",
   "exp", "log", "sqrt", "int", "rand", "srand", "tolower", "toupper", "system", "close", "fflush",
   "systime", "strftime", "mktime"]

/-- The signs, longer ones first. -/
def signs : List String :=
  ["^=", "+=", "-=", "*=", "/=", "%=", "==", "<=", ">=", "!=", "++", "--", "&&", "||", ">>",
   "!~", "\x7b", "\x7d", "(", ")", "[", "]", ";", ",", "+", "-", "*", "/", "%", "^", "!", ">",
    "<", "|", "?",
   ":", "~", "$", "="]

/-- The text of a token in a message. -/
def spelling : Token → String
  | .number _ digits => digits
  | .text t => "\"" ++ t ++ "\""
  | .regex t => "/" ++ t ++ "/"
  | .name n | .function n | .builtin n => n
  | .keyword word => word
  | .sign s => s
  | .newline => "end of line"

/-- Whether a value can end with a token. -/
def endsValue : Token → Bool
  | .number .. | .text _ | .regex _ | .name _ | .builtin _ => true
  | .sign s => [")", "]", "$", "++", "--"].contains s
  | _ => false

/-- Whether a token is a given sign. -/
def isSign (t : Token) (sign : String) : Bool :=
  match t with
  | .sign other => other = sign
  | _ => false

/-- Whether a token is a given keyword. -/
def isKeyword (t : Token) (word : String) : Bool :=
  match t with
  | .keyword other => other = word
  | _ => false

/-- Whether a token is the end of a line. -/
def isNewline : Token → Bool
  | .newline => true
  | _ => false

end Token

/-! ## Texts -/

/-- The character of an escape in a text, and with how many characters it is written behind the
backslash. -/
def escape? : List Char → Option (Char × Nat)
  | '"' :: _ => some ('"', 1)
  | '/' :: _ => some ('/', 1)
  | '\\' :: _ => some ('\\', 1)
  | c :: rest =>
    let digits := ((c :: rest).takeWhile Shell.Escape.isOctal).take 3
    if !digits.isEmpty then
      let n : Nat := digits.foldl (fun n c => 8 * n + (c.toNat - 48)) 0
      some (Char.ofNat (n % 256), digits.length)
    else if c == 'e' then none
    else (Shell.Escape.letter? c).map (·, 1)
  | [] => none

/-- Text in which escapes have been replaced; some characters are skipped first. -/
def unescapeFrom : (skip : Nat) → List Char → List Char
  | _, [] => []
  | skip + 1, _ :: rest => unescapeFrom skip rest
  | 0, c :: rest =>
    match if c == '\\' then escape? rest else none with
    | some (d, length) => d :: unescapeFrom length rest
    | none => c :: unescapeFrom 0 rest

/-- Text in which escapes have been replaced. -/
def unescape (text : String) : String :=
  if text.toList.contains '\\' then String.ofList (unescapeFrom 0 text.toList) else text

/-- The text of a regular expression in which only signs stand behind a backslash; some characters
are skipped first. -/
def regexText : (skip : Nat) → List Char → List Char
  | _, [] => []
  | skip + 1, _ :: rest => regexText skip rest
  | 0, c :: rest =>
    if c != '\\' then c :: regexText 0 rest
    else
      match rest with
      | [] => ['\\', '\\']
      | d :: _ =>
        match if d == '\\' then none else escape? rest with
        | some (e, length) =>
          if e.isAlphanum || e.toNat < 33 || e == '"' || e == '/' then e :: regexText length rest
          else '\\' :: e :: regexText length rest
        | none =>
          if d.isAlphanum then d :: regexText 1 rest else '\\' :: d :: regexText 1 rest

/-- The expression that a text writes. -/
def regexOf (text : String) : Except RegexFault Regex :=
  Regex.read { extended := true, lenient := true, quotesMembers := true }
    (String.ofList (regexText 0 text.toList))

/-! ## Cutting a script into tokens -/

/-- The text up to a mark that no backslash stands in front of, and the number of characters up to
and with the mark. -/
def upTo? (mark : Char) (inBrackets : Bool) : List Char → Option (List Char × Nat)
  | [] => none
  | [c] => if c == mark then some ([], 1) else none
  | c :: d :: rest =>
    if c == mark && !inBrackets then some ([], 1)
    else if c == '\\' then do
      let (text, n) ← upTo? mark inBrackets rest
      some (if d == '\n' then text else c :: d :: text, n + 2)
    else if c == '\n' then none
    else do
      let inside := mark == '/' && (if inBrackets then c != ']' else c == '[')
      let (text, n) ← upTo? mark inside (d :: rest)
      some (c :: text, n + 1)

/-- Whether a character can stand in a name. -/
def isNameChar (c : Char) : Bool := c.isAlphanum || c == '_'

/-- The number that digits write. -/
def floatOf (digits : Nat) (power : Int) : Float :=
  Float.ofScientific digits (power < 0) (min power.natAbs 5000)

/-- The token of a word, and with how many characters it is written. -/
def wordToken (word : String) (rest : List Char) : Token × Nat :=
  if word = "func" then (.keyword "function", 0)
  else if Token.keywords.contains word then (.keyword word, 0)
  else if Token.builtins.contains word then (.builtin word, 0)
  else if rest.head? == some '(' then (.function word, 1)
  else (.name word, 0)

/-- Why a script cannot be read. -/
structure Fault where
  line : Nat
  message : String
  deriving Repr

/-- What a message shows of a text whose end is missing. -/
def beginning (text : List Char) : String :=
  String.ofList ((text.takeWhile (· ≠ '\n')).take 10)

/-- The tokens of a text with the numbers of their lines; some characters are skipped first. -/
def tokensFrom : (skip line : Nat) → (previous? : Option Token) → List Char →
    Except Fault (List (Token × Nat))
  | _, _, _, [] => .ok []
  | skip + 1, line, previous?, c :: rest =>
    tokensFrom skip (if c == '\n' then line + 1 else line) previous? rest
  | 0, line, previous?, c :: rest =>
    let put (t : Token) (skip : Nat) : Except Fault (List (Token × Nat)) := do
      return (t, line) :: (← tokensFrom skip line (some t) rest)
    if c == ' ' || c == '\t' || c == '\r' then tokensFrom 0 line previous? rest
    else if c == '\n' then do
      return (.newline, line) :: (← tokensFrom 0 (line + 1) (some .newline) rest)
    else if c == '#' then
      tokensFrom (rest.takeWhile (· != '\n')).length line previous? rest
    else if c == '\\' && rest.head? == some '\n' then tokensFrom 1 line previous? rest
    else if c == '\\' && rest.take 2 == ['\r', '\n'] then tokensFrom 2 line previous? rest
    else if c == '"' then
      match upTo? '"' false rest with
      | some (text, length) => put (.text (unescape (String.ofList text))) length
      | none => .error ⟨line, "runaway string constant \"" ++ beginning rest ++ " ..."⟩
    else if c == '/' && !previous?.any Token.endsValue then
      match upTo? '/' false rest with
      | some (text, length) => put (.regex (String.ofList text)) length
      | none => .error ⟨line, "runaway regular expression /" ++ beginning rest ++ " ..."⟩
    else if c.isDigit || (c == '.' && rest.head?.any Char.isDigit) then
      match Magnitude.read? (c :: rest) with
      | some (digits, power, length) =>
        put (.number (floatOf digits power) (String.ofList ((c :: rest).take length))) (length - 1)
      | none => .error ⟨line, "syntax error at or near " ++ String.singleton c⟩
    else if c.isAlpha || c == '_' then
      let word := c :: rest.takeWhile isNameChar
      let (token, more) := wordToken (String.ofList word) (rest.drop (word.length - 1))
      put token (word.length - 1 + more)
    else
      match Token.signs.find? fun sign => sign.toList.isPrefixOf (c :: rest) with
      | some sign => put (.sign sign) (sign.length - 1)
      | none => .error ⟨line, "unexpected character '" ++ String.singleton c ++ "'"⟩

/-- The tokens of a script; a line ends behind the last one. -/
def tokens (text : String) : Except Fault (List (Token × Nat)) :=
  tokensFrom 0 1 none (if text.toList.getLast? == some '\n' then text.toList
    else text.toList ++ ['\n'])

end SignatureAudit.Emulation.Utility.Record
