import SignatureAudit.Emulation.Text.CharSet

/-!
# Patterns for texts

A pattern fits a whole text: a star stands for any text, a question mark for any character, and a
set in brackets for its members. A quoted character stands for itself. A `Pattern` is the list of
its items; `Pattern.fits` tells whether it fits, and `Pattern.trim` takes what it fits off the front
or the end of a text.
-/

namespace SignatureAudit.Emulation.Shell

/-- An item of a pattern. -/
inductive PatternItem
  | char (char : Char)
  | anyChar
  | anyText
  | set (members : CharSet)
  deriving DecidableEq, Repr

/-- Whether an item stands for a character. -/
def PatternItem.fits (item : PatternItem) (c : Char) : Bool :=
  match item with
  | .char d => c == d
  | .set members => members.contains c
  | .anyChar | .anyText => true

/-- A pattern for texts. -/
abbrev Pattern := List PatternItem

namespace Pattern

/-- Reads a pattern; some characters are skipped first. -/
def readFrom : (skip : Nat) → List Letter → Pattern
  | _, [] => []
  | skip + 1, _ :: rest => readFrom skip rest
  | 0, (c, quoted) :: rest =>
    if quoted then .char c :: readFrom 0 rest
    else if c == '*' then .anyText :: readFrom 0 rest
    else if c == '?' then .anyChar :: readFrom 0 rest
    else
      match if c == '[' then CharSet.read? ['!', '^'] rest else none with
      | some (members, length) => .set members :: readFrom length rest
      | none => .char c :: readFrom 0 rest

/-- Reads a pattern. -/
def read (text : List Letter) : Pattern := readFrom 0 text

/-- Whether a pattern fits more texts than one. -/
def isWild (p : Pattern) : Bool :=
  p.any fun
    | .char _ => false
    | _ => true

/-- A text and what is left of it when more and more is taken off its front. -/
def tails : List Char → List (List Char)
  | [] => [[]]
  | c :: cs => (c :: cs) :: tails cs

/-- Whether a pattern fits a whole text. -/
def fits : Pattern → List Char → Bool
  | [], cs => cs.isEmpty
  | .anyText :: [], _ => true
  | .anyText :: p, cs => (tails cs).any (fits p)
  | _ :: _, [] => false
  | item :: p, c :: cs => item.fits c && fits p cs

/-- The text that a pattern without wildcards fits. -/
def text (p : Pattern) : String :=
  String.ofList (p.filterMap fun
    | .char c => some c
    | _ => none)

/-- A text without the part at its front or its end that a pattern fits. -/
def trim (p : Pattern) (atEnd longest : Bool) (cs : List Char) : List Char :=
  let lengths := List.range (cs.length + 1)
  let lengths := if longest then lengths.reverse else lengths
  let part (n : Nat) : List Char := if atEnd then cs.drop (cs.length - n) else cs.take n
  match lengths.find? fun n => fits p (part n) with
  | some n => if atEnd then cs.take (cs.length - n) else cs.drop n
  | none => cs

end Pattern

end SignatureAudit.Emulation.Shell
