/-!
# Sets of characters

A set of characters is written in brackets: single characters, ranges, and classes that are called
by a name between colons. `CharSet.read?` reads one behind its opening bracket.
-/

namespace SignatureAudit.Emulation

/-- A character of a text, and whether it was quoted so that it only stands for itself. -/
abbrev Letter := Char × Bool

/-- A set of characters as ranges, or all characters outside of them. -/
structure CharSet where
  ranges : List (Char × Char)
  negated : Bool := false
  deriving DecidableEq, Repr

namespace CharSet

/-- Whether a character is in the ranges of a set, negated or not. -/
def inRanges (s : CharSet) (c : Char) : Bool := s.ranges.any fun (low, high) => low ≤ c && c ≤ high

/-- Whether a character is in a set. -/
def contains (s : CharSet) (c : Char) : Bool := s.inRanges c != s.negated

/-- The letters of one case, or of both. -/
def letters (lower upper : Bool) : List (Char × Char) :=
  (if lower then [('a', 'z')] else []) ++ if upper then [('A', 'Z')] else []

/-- The ranges of a class. -/
def classRanges? (name : String) : Option (List (Char × Char)) :=
  match name with
  | "alpha" => some (letters true true)
  | "digit" => some [('0', '9')]
  | "alnum" => some (('0', '9') :: letters true true)
  | "upper" => some (letters false true)
  | "lower" => some (letters true false)
  | "space" => some [(' ', ' '), ('\t', '\r')]
  | "blank" => some [(' ', ' '), ('\t', '\t')]
  | "punct" => some [('!', '/'), (':', '@'), ('[', '\x60'), ('\x7b', '~')]
  | "print" => some [(' ', '~')]
  | "graph" => some [('!', '~')]
  | "cntrl" => some [('\x00', '\x1f'), ('\x7f', '\x7f')]
  | "xdigit" => some [('0', '9'), ('A', 'F'), ('a', 'f')]
  | _ => none

/-- The class that is called at the front of a text, behind its first bracket. -/
def calledClass? (text : List Letter) : Option (List (Char × Char) × Nat) :=
  match text with
  | (':', false) :: rest =>
    let name := (rest.takeWhile fun m => m.1.isAlpha).map (·.1)
    match rest.drop name.length with
    | (':', false) :: (']', false) :: _ =>
      (classRanges? (String.ofList name)).map (·, name.length + 3)
    | _ => none
  | _ => none

/-- Reads the members of a set up to the closing bracket; tells how many characters stand up to it.
Some characters are skipped first. A closing bracket in front of all members is one itself. -/
def members? : (skip : Nat) → (first : Bool) → List Letter → Option (List (Char × Char) × Nat)
  | _, _, [] => none
  | skip + 1, first, _ :: rest => do
    let (more, n) ← members? skip first rest
    some (more, n + 1)
  | 0, first, (c, quoted) :: rest =>
    if c == ']' && !quoted && !first then some ([], 1)
    else
      let single : Option (List (Char × Char) × Nat) := do
        let (more, n) ← members? 0 false rest
        some ((c, c) :: more, n + 1)
      match if c == '[' && !quoted then calledClass? rest else none with
      | some (ranges, length) => do
        let (more, n) ← members? length false rest
        some (ranges ++ more, n + 1)
      | none =>
        match rest with
        | ('-', false) :: (high, highQuoted) :: _ =>
          if high == ']' && !highQuoted then single
          else do
            let (more, n) ← members? 2 false rest
            some ((c, high) :: more, n + 1)
        | _ => single

/-- Reads a set behind its opening bracket, where one of some characters may negate it; tells how
many characters it is written with. -/
def read? (negations : List Char) (text : List Letter) : Option (CharSet × Nat) :=
  match text with
  | (c, false) :: rest =>
    if negations.contains c then
      (members? 0 true rest).map fun (ranges, n) => ({ ranges, negated := true }, n + 1)
    else (members? 0 true text).map fun (ranges, n) => ({ ranges }, n)
  | _ => (members? 0 true text).map fun (ranges, n) => ({ ranges }, n)

end CharSet

end SignatureAudit.Emulation
