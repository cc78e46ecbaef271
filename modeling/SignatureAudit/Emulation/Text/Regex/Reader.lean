import SignatureAudit.Emulation.Text.Regex.Basic

/-!
# Regular expressions as text

A regular expression is written with signs that repeat, group and choose. In the plain style a sign
has to stand behind a backslash, in the extended style it stands by itself, and the backslash takes
its meaning away. The text is first cut into tokens; `Regex.ofTokens` then follows them with a stack
of the groups that are open.
-/

namespace SignatureAudit.Emulation

/-- Why a text is no regular expression. -/
inductive RegexFault
  | unmatchedBracket
  | unmatchedOpen
  | unmatchedClose
  | unmatchedBrace
  | invalidBound
  | trailingBackslash
  | nothingToRepeat
  | unknownGroup
  | unknownClass
  | invalidRange
  deriving DecidableEq, Repr

/-- The wording of a fault. -/
def RegexFault.message : RegexFault → String
  | .unmatchedBracket => "Unmatched [, [^, [:, [., or [="
  | .unmatchedOpen => "Unmatched ( or \\("
  | .unmatchedClose => "Unmatched ) or \\)"
  | .unmatchedBrace => "Unmatched \\\x7b"
  | .invalidBound => "Invalid content of \\\x7b\\\x7d"
  | .trailingBackslash => "Trailing backslash"
  | .nothingToRepeat => "Invalid preceding regular expression"
  | .unknownGroup => "Invalid back reference"
  | .unknownClass => "Invalid character class name"
  | .invalidRange => "Invalid range end"

/-- How regular expressions are written. -/
structure RegexStyle where
  /-- Signs stand without a backslash. -/
  extended : Bool
  /-- What cannot be a repetition or the end of a group stands for itself. -/
  lenient : Bool := false
  /-- A backslash stands in front of characters in brackets, too. -/
  quotesMembers : Bool := false
  /-- A letter behind a backslash stands for digits. -/
  digits : Bool := false
  deriving DecidableEq, Repr

/-- A token of a regular expression. -/
inductive RegexToken
  /-- Something that stands by itself. -/
  | item (item : Regex)
  | opening
  | closing
  | bar
  | repetition (least : Nat) (most? : Option Nat)
  deriving DecidableEq, Repr

namespace RegexToken

/-- Whether a part of an expression starts behind a token. -/
def starts (previous? : Option RegexToken) : Bool :=
  match previous? with
  | none | some .opening | some .bar => true
  | _ => false

/-- The characters of words. -/
def wordSet : CharSet := ⟨[('a', 'z'), ('A', 'Z'), ('0', '9'), ('_', '_')], false⟩

/-- The characters of space. -/
def spaceSet : CharSet := ⟨[(' ', ' '), ('\t', '\r')], false⟩

/-- What a letter or a sign behind a backslash stands for in every style. -/
def special? (c : Char) : Option Regex :=
  match c with
  | 'w' => some (.set wordSet)
  | 'W' => some (.set { wordSet with negated := true })
  | 's' => some (.set spaceSet)
  | 'S' => some (.set { spaceSet with negated := true })
  | 'b' => some .wordEdge
  | 'B' => some .noWordEdge
  | '<' => some .wordStart
  | '>' => some .wordFinish
  | '\x60' => some .textStart
  | '\'' => some .textFinish
  | _ => if c.isDigit && c != '0' then some (.again (c.toNat - 48)) else none

/-- The decimal digits. -/
def digitSet : CharSet := ⟨[('0', '9')], false⟩

/-- What a letter behind a backslash stands for, given the style. -/
def quoted (style : RegexStyle) (c : Char) : Regex :=
  if style.digits && c == 'd' then .set digitSet
  else if style.digits && c == 'D' then .set { digitSet with negated := true }
  else (special? c).getD (.char c)

/-- A token of one sign. -/
def sign? (c : Char) : Option RegexToken :=
  match c with
  | '(' => some .opening
  | ')' => some .closing
  | '|' => some .bar
  | '+' => some (.repetition 1 none)
  | '?' => some (.repetition 0 (some 1))
  | _ => none

/-- The numbers between braces, and the number of characters up to the end of the closing brace. -/
def bounds? (extended : Bool) (text : List Char) : Except RegexFault (RegexToken × Nat) :=
  let inside := text.takeWhile fun c => c != '\x7d' && c != '\\'
  let rest := text.drop inside.length
  let close := if extended then ['\x7d'] else ['\\', '\x7d']
  if !close.isPrefixOf rest then .error .unmatchedBrace
  else
    let low := inside.takeWhile Char.isDigit
    let least := ((String.ofList low).toNat?).getD 0
    let length := inside.length + close.length
    match inside.drop low.length with
    | [] => if low.isEmpty then .error .invalidBound
      else .ok (.repetition least (some least), length)
    | ',' :: high =>
      if !high.all Char.isDigit then .error .invalidBound
      else
        match (String.ofList high).toNat? with
        | none => .ok (.repetition least none, length)
        | some most => if most < least then .error .invalidBound
          else .ok (.repetition least (some most), length)
    | _ => .error .invalidBound

/-- The letters of a text, of which those behind a backslash are quoted; each letter comes with the
number of characters that it is written with. -/
def unquoted : List Char → List (Letter × Nat)
  | '\\' :: c :: rest => ((c, true), 2) :: unquoted rest
  | c :: rest => ((c, false), 1) :: unquoted rest
  | [] => []

/-- Whether a class of an unknown name is called in a text. -/
def callsUnknown : List Char → Bool
  | '[' :: ':' :: rest =>
    let name := rest.takeWhile Char.isAlpha
    ([':', ']'].isPrefixOf (rest.drop name.length)
      && (CharSet.classRanges? (String.ofList name)).isNone) || callsUnknown (':' :: rest)
  | _ :: rest => callsUnknown rest
  | [] => false

/-- Reads a set behind its opening bracket; tells how many characters it is written with. -/
def set? (style : RegexStyle) (text : List Char) : Except RegexFault (CharSet × Nat) :=
  let letters : List (Letter × Nat) :=
    if style.quotesMembers then unquoted text else text.map fun c => ((c, false), 1)
  match CharSet.read? ['^'] (letters.map (·.1)) with
  | none => .error .unmatchedBracket
  | some (members, count) =>
    let length := ((letters.take count).map (·.2)).foldl (· + ·) 0
    if callsUnknown (text.take length) then .error .unknownClass
    else if members.ranges.any fun (low, high) => high < low then .error .invalidRange
    else .ok (members, length)

/-- Whether a part of an expression ends in front of a text. -/
def endsBefore (extended : Bool) (text : List Char) : Bool :=
  match text with
  | [] => true
  | '\\' :: c :: _ => !extended && (c == ')' || c == '|')
  | c :: _ => extended && (c == ')' || c == '|')

/-- The token at the front of a text whose first character is given, and the number of characters
behind it that belong to it. -/
def next (style : RegexStyle) (previous? : Option RegexToken) (c : Char) (rest : List Char) :
    Except RegexFault (RegexToken × Nat) := do
  let own : RegexToken × Nat := (.item (.char c), 0)
  match c with
  | '\\' =>
    match rest with
    | [] => .error .trailingBackslash
    | d :: rest =>
      match if style.extended then none else sign? d with
      | some token =>
        if starts previous? && (d == '+' || d == '?') then .ok (.item (.char d), 1)
        else .ok (token, 1)
      | none =>
        if d == '\x7b' && !style.extended then
          if starts previous? then .error .nothingToRepeat
          else
            let (token, length) ← bounds? false rest
            .ok (token, length + 1)
        else .ok (.item (quoted style d), 1)
  | '[' =>
    let (members, length) ← set? style rest
    .ok (.item (.set members), length)
  | '.' => .ok (.item .any, 0)
  | '*' =>
    let atStart := starts previous? || (!style.extended && previous? = some (.item .start))
    if !atStart || style.extended && style.lenient then .ok (.repetition 0 none, 0)
    else if style.extended then .error .nothingToRepeat
    else .ok own
  | '^' => if style.extended || starts previous? then .ok (.item .start, 0) else .ok own
  | '$' =>
    if style.extended || endsBefore style.extended rest then .ok (.item .finish, 0) else .ok own
  | '\x7b' =>
    if !style.extended then .ok own
    else
      match bounds? true rest with
      | .ok (token, length) =>
        if !starts previous? || style.lenient then .ok (token, length) else .error .nothingToRepeat
      | .error fault => if style.lenient then .ok own else .error fault
  | c =>
    match if style.extended then sign? c else none with
    | some (.repetition least most?) =>
      if !starts previous? || style.lenient then .ok (.repetition least most?, 0)
      else .error .nothingToRepeat
    | some token => .ok (token, 0)
    | none => .ok own

/-- The tokens of a text; some characters are skipped first. -/
def readFrom (style : RegexStyle) : (skip : Nat) → (previous? : Option RegexToken) → List Char →
    Except RegexFault (List RegexToken)
  | _, _, [] => .ok []
  | skip + 1, previous?, _ :: rest => readFrom style skip previous? rest
  | 0, previous?, c :: rest => do
    let (token, length) ← next style previous? c rest
    return token :: (← readFrom style length (some token) rest)

/-- The tokens of a text. -/
def readAll (style : RegexStyle) (text : String) : Except RegexFault (List RegexToken) :=
  readFrom style 0 none text.toList

end RegexToken

/-- An open group: its number, the choices that have ended, and the items of the current one, the
last ones first. -/
structure OpenGroup where
  number : Nat
  choices : List Regex := []
  items : List Regex := []

namespace OpenGroup

/-- Items one behind the other; the last one comes first. -/
def sequence (items : List Regex) : Regex :=
  match items with
  | [] => .empty
  | last :: others => others.foldl (fun later item => .sequence item later) last

/-- All choices of a group. -/
def inner (g : OpenGroup) : Regex :=
  g.choices.foldl (fun later choice => .either choice later) (sequence g.items)

/-- A group with one more item. -/
def add (g : OpenGroup) (item : Regex) : OpenGroup := { g with items := item :: g.items }

/-- A group in which the current choice has ended. -/
def choose (g : OpenGroup) : OpenGroup :=
  { g with choices := sequence g.items :: g.choices, items := [] }

end OpenGroup

namespace Regex

/-- Follows tokens: `groups` are the open groups around the current one, `count` is the number of
groups so far, and `closed` are the numbers of those that have ended. -/
def follow (style : RegexStyle) (count : Nat) (closed : List Nat) (current : OpenGroup)
    (groups : List OpenGroup) : List RegexToken → Except RegexFault Regex
  | [] => if groups.isEmpty then .ok current.inner else .error .unmatchedOpen
  | .item (.again number) :: rest =>
    if closed.contains number then
      follow style count closed (current.add (.again number)) groups rest
    else .error .unknownGroup
  | .item item :: rest => follow style count closed (current.add item) groups rest
  | .opening :: rest =>
    follow style (count + 1) closed { number := count + 1 } (current :: groups) rest
  | .closing :: rest =>
    match groups with
    | outer :: groups =>
      let item : Regex := .group current.number current.inner
      follow style count (current.number :: closed) (outer.add item) groups rest
    | [] =>
      if style.lenient && style.extended then
        follow style count closed (current.add (.char ')')) groups rest
      else .error .unmatchedClose
  | .bar :: rest => follow style count closed current.choose groups rest
  | .repetition least most? :: rest =>
    match current.items with
    | item :: items =>
      let item : Regex := .repeated item least most?
      follow style count closed { current with items := item :: items } groups rest
    | [] =>
      if style.lenient then follow style count closed current groups rest
      else .error .nothingToRepeat

/-- The expression that tokens write. -/
def ofTokens (style : RegexStyle) (tokens : List RegexToken) : Except RegexFault Regex :=
  follow style 0 [] { number := 0 } [] tokens

/-- The expression that a text writes. -/
def read (style : RegexStyle) (text : String) : Except RegexFault Regex := do
  ofTokens style (← RegexToken.readAll style text)

/-- The number of groups of an expression. -/
def groupCount : Regex → Nat
  | .sequence a b | .either a b => groupCount a + groupCount b
  | .group _ inner => groupCount inner + 1
  | .repeated inner _ _ => groupCount inner
  | _ => 0

end Regex

end SignatureAudit.Emulation
