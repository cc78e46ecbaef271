/-!
# Words of shell scripts

A word is written with quotes, backslashes and expansions. It keeps for every character whether it
was quoted, since a quoted character is never a pattern and never separates words.
-/

namespace SignatureAudit.Emulation.Shell

/-- What to do about a parameter that has no value. -/
inductive Absence
  /-- Another word stands for the value. -/
  | other
  /-- Another word becomes the value. -/
  | assign
  /-- The script ends with a message. -/
  | refuse
  /-- Another word stands for a value that is there, and nothing for one that is not. -/
  | present
  deriving DecidableEq, Repr

/-- A part of a word. -/
inductive Part
  | char (char : Char) (quoted : Bool)
  /-- Quotes stood here, perhaps around nothing. -/
  | quotes
  /-- The value of a variable, a position or a special parameter. -/
  | value (name : String) (quoted : Bool)
  /-- The number of characters of a value. -/
  | length (name : String) (quoted : Bool)
  /-- A value or what stands for it; an empty value may count as none. -/
  | alternative (name : String) (absence : Absence) (emptyCounts : Bool) (word : List Part)
      (quoted : Bool)
  /-- A value without the part at its front or its end that fits a pattern. -/
  | trimmed (name : String) (atEnd longest : Bool) (pattern : List Part) (quoted : Bool)
  /-- What a script prints; the script starts on a line of the whole one. -/
  | command (script : String) (line : Nat) (quoted : Bool)
  /-- The value of an arithmetic expression. -/
  | arithmetic (expression : List Part) (quoted : Bool)
  /-- An expansion that cannot be carried out. -/
  | faulty
  deriving Repr, Inhabited

/-- The character of a part that is one without quotes. -/
def Part.bare? : Part → Option Char
  | .char c false => some c
  | _ => none

/-- A word of a script. -/
abbrev Word := List Part

/-- A character of a name. -/
def isNameChar (c : Char) : Bool := c.isAlphanum || c == '_'

/-- Whether characters are a name. -/
def isName (cs : List Char) : Bool :=
  match cs with
  | [] => false
  | c :: _ => !c.isDigit && cs.all isNameChar

namespace Word

/-- The text of a word without quotes and expansions. -/
def bare? (w : Word) : Option String := (w.mapM Part.bare?).map String.ofList

/-- Characters as quoted parts. -/
def quoted (cs : List Char) : Word := cs.map (.char · true)

/-- The name and the value, if the word is an assignment. -/
def assignment? (w : Word) : Option (String × Word) := do
  let name ← (w.takeWhile fun part => (part.bare?.map isNameChar).getD false).mapM Part.bare?
  match w.drop name.length with
  | .char '=' false :: value => if isName name then some (String.ofList name, value) else none
  | _ => none

end Word

end SignatureAudit.Emulation.Shell
