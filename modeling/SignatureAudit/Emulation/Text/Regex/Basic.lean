import SignatureAudit.Emulation.Text.CharSet

/-!
# Regular expressions

A regular expression fits parts of a text. `Regex.ends` follows it from a place of the text to all
places where it can end, the preferred ones first, together with the parts that its groups fit; of
the parts that start at one place the longest counts. `Regex.search?` finds the first one.
-/

namespace SignatureAudit.Emulation

/-- A regular expression. -/
inductive Regex
  | empty
  | char (char : Char)
  /-- Any character. -/
  | any
  | set (members : CharSet)
  | start
  | finish
  /-- The start or the end of the whole text, which lines inside of it do not have. -/
  | textStart
  | textFinish
  /-- Behind a character of a word, or not. -/
  | behindWord (isThere : Bool)
  /-- In front of a character of a word, or not. -/
  | beforeWord (isThere : Bool)
  | sequence (first second : Regex)
  | either (first second : Regex)
  | group (number : Nat) (inner : Regex)
  | repeated (inner : Regex) (least : Nat) (most? : Option Nat)
  /-- The text that a group fits, once more. -/
  | again (number : Nat)
  deriving DecidableEq, Repr, Inhabited

namespace Regex

/-- Where a word starts. -/
def wordStart : Regex := .sequence (.behindWord false) (.beforeWord true)

/-- Where a word ends. -/
def wordFinish : Regex := .sequence (.behindWord true) (.beforeWord false)

/-- Where a word starts or ends. -/
def wordEdge : Regex := .either wordStart wordFinish

/-- Where no word starts or ends. -/
def noWordEdge : Regex :=
  .either (.sequence (.behindWord true) (.beforeWord true))
    (.sequence (.behindWord false) (.beforeWord false))

/-- An expression for a whole text. -/
def whole (inner : Regex) : Regex := .sequence .textStart (.sequence inner .textFinish)

/-- An expression for whole words. -/
def words (inner : Regex) : Regex :=
  .sequence (.behindWord false) (.sequence inner (.beforeWord false))

/-- An expression for a fixed text. -/
def fixed (text : String) : Regex :=
  text.toList.reverse.foldl (fun later c => .sequence (.char c) later) .empty

end Regex

/-- A place in a text, and the parts that groups fit, the last one first. -/
structure Place where
  position : Nat
  groups : List (Nat × Nat × Nat) := []
  deriving DecidableEq, Repr

/-- A part of a text that a regular expression fits, with the parts that its groups fit. -/
structure Found where
  start : Nat
  finish : Nat
  groups : List (Nat × Nat × Nat)
  deriving DecidableEq, Repr

namespace Regex

/-- How the letters of a text are compared and where its lines end. -/
structure Reading where
  text : Array Char
  /-- Capital letters fit small ones. -/
  folds : Bool := false
  /-- Lines inside the text have starts and ends, too. -/
  byLines : Bool := false
  /-- The place is behind the start of a longer text. -/
  inside : Bool := false

/-- A character of a word. -/
def isWordChar (c : Char) : Bool := c.isAlphanum || c == '_'

namespace Reading

/-- Whether two characters fit each other. -/
def same (r : Reading) (a b : Char) : Bool := a == b || (r.folds && a.toLower == b.toLower)

/-- Whether a character is in a set. -/
def isIn (r : Reading) (members : CharSet) (c : Char) : Bool :=
  if r.folds then
    (members.inRanges c || members.inRanges c.toLower || members.inRanges c.toUpper)
      != members.negated
  else members.contains c

/-- Whether a character of a word stands at a place. -/
def wordAt (r : Reading) (position : Nat) : Bool := (r.text[position]?).any isWordChar

/-- Whether a character of a word stands in front of a place. -/
def wordBefore (r : Reading) (position : Nat) : Bool := 0 < position && r.wordAt (position - 1)

/-- Whether a line starts at a place. -/
def startsAt (r : Reading) (position : Nat) : Bool :=
  if position = 0 then !r.inside
  else r.byLines && r.text[position - 1]? == some '\n'

/-- Whether a line ends at a place. -/
def endsAt (r : Reading) (position : Nat) : Bool :=
  position = r.text.size || (r.byLines && r.text[position]? == some '\n')

/-- Whether two parts of the text fit each other. -/
def repeats (r : Reading) (start length position : Nat) : Bool :=
  (List.range length).all fun n =>
    match r.text[start + n]?, r.text[position + n]? with
    | some a, some b => r.same a b
    | _, _ => false

end Reading

/-- Places of which only the first at each position is kept. -/
def distinct (places : List Place) : List Place :=
  match places with
  | [] | [_] => places
  | _ =>
    let last := places.foldl (fun n p => max n p.position) 0
    let step (s : Array Bool × List Place) (p : Place) : Array Bool × List Place :=
      if s.1.getD p.position true then s else (s.1.setIfInBounds p.position true, p :: s.2)
    (places.foldl step (Array.replicate (last + 1) false, [])).2.reverse

/-- The places that are reached by repetitions, most repetitions first. The last number bounds their
number; a repetition that goes nowhere is not followed. -/
def repetitions (step : Place → List Place) (least : Nat) (most? : Option Nat) :
    (bound : Nat) → Place → List Place
  | 0, p => if least = 0 then [p] else []
  | bound + 1, p =>
    let further := if most? = some 0 then [] else
      ((step p).filter fun q => p.position < q.position || 0 < least).flatMap
        (repetitions step (least - 1) (most?.map (· - 1)) bound)
    distinct (further ++ if least = 0 then [p] else [])

/-- The places that are reached when one character is passed. -/
def pass (r : Reading) (p : Place) (suits : Char → Bool) : List Place :=
  match r.text[p.position]? with
  | some c => if suits c then [{ p with position := p.position + 1 }] else []
  | none => []

/-- The place itself, if something holds there. -/
def stay (p : Place) (holds : Bool) : List Place := if holds then [p] else []

/-- The test of a regular expression that stands for one character. -/
def single? (r : Reading) : Regex → Option (Char → Bool)
  | .char c => some (r.same c)
  | .any => some fun _ => true
  | .set members => some (r.isIn members)
  | _ => none

/-- The places that are reached when characters are passed that all suit, most of them first. -/
def run (r : Reading) (p : Place) (suits : Char → Bool) (least : Nat) (most? : Option Nat) :
    List Place :=
  let left := r.text.size - p.position
  let most := min left (most?.getD left)
  let count := ((r.text.extract p.position (p.position + most)).toList.takeWhile suits).length
  (List.range (count + 1 - least)).map fun n => { p with position := p.position + (count - n) }

/-- The places at which a regular expression can end that starts at a place. -/
def ends (r : Reading) : Regex → Place → List Place
  | .empty, p => [p]
  | .char c, p => pass r p (r.same c)
  | .any, p => pass r p fun _ => true
  | .set members, p => pass r p (r.isIn members)
  | .start, p => stay p (r.startsAt p.position)
  | .finish, p => stay p (r.endsAt p.position)
  | .textStart, p => stay p (p.position = 0 && !r.inside)
  | .textFinish, p => stay p (p.position = r.text.size)
  | .behindWord isThere, p => stay p (r.wordBefore p.position == isThere)
  | .beforeWord isThere, p => stay p (r.wordAt p.position == isThere)
  | .sequence first second, p => distinct ((ends r first p).flatMap (ends r second))
  | .either first second, p => distinct (ends r first p ++ ends r second p)
  | .group number inner, p =>
    (ends r inner p).map fun q =>
      { q with groups := (number, p.position, q.position) :: q.groups }
  | .repeated inner least most?, p =>
    match single? r inner with
    | some suits => run r p suits least most?
    | none => repetitions (ends r inner) least most? (r.text.size + least + 1) p
  | .again number, p =>
    match p.groups.lookup number with
    | some (low, high) =>
      if r.repeats low (high - low) p.position then
        [{ p with position := p.position + (high - low) }]
      else []
    | none => []

/-- The longest part that a regular expression fits from a position on. -/
def longest? (r : Reading) (regex : Regex) (position : Nat) : Option Found :=
  (ends r regex { position }).foldl (fun best? p =>
    match best? with
    | some best => if best.finish < p.position then some ⟨position, p.position, p.groups⟩ else best?
    | none => some ⟨position, p.position, p.groups⟩) none

/-- The first part that a regular expression fits, not in front of a position. -/
def search? (r : Reading) (regex : Regex) (position : Nat) : Option Found :=
  (List.range (r.text.size + 1 - position)).findSome? fun n => longest? r regex (position + n)

/-- Whether a regular expression fits a part of a text. -/
def occurs (r : Reading) (regex : Regex) : Bool := (search? r regex 0).isSome

/-- The text of a part. -/
def part (r : Reading) (start finish : Nat) : String :=
  String.ofList (r.text.extract start finish).toList

/-- The parts that a regular expression fits, one behind the other. An empty part right behind
another does not count. The last number bounds their number. -/
def parts (r : Reading) (regex : Regex) :
    (bound position : Nat) → (after? : Option Nat) → List Found
  | 0, _, _ => []
  | bound + 1, position, after? =>
    match search? r regex position with
    | none => []
    | some f =>
      if f.finish = f.start then
        let others := parts r regex bound (f.finish + 1) after?
        if after? = some f.start then others else f :: others
      else f :: parts r regex bound f.finish (some f.finish)

/-- All parts that a regular expression fits, one behind the other. -/
def all (r : Reading) (regex : Regex) : List Found := parts r regex (r.text.size + 2) 0 none

end Regex

end SignatureAudit.Emulation
