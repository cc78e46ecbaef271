import SignatureAudit.Emulation.Text.Regex.Reader

/-!
# Scripts for editing lines

A script for editing is a list of commands, each with a selection of lines. Blocks and jumps lead to
other commands by their places in the list.
-/

namespace SignatureAudit.Emulation.Utility.Edit

/-- A regular expression with the way in which it reads lines; without one the last one is meant. -/
structure LinePattern where
  regex? : Option Regex
  folds : Bool := false
  byLines : Bool := false
  deriving Repr

/-- What one line is known by. -/
inductive Address
  | line (number : Nat)
  /-- Every so many lines from one on. -/
  | every (first step : Nat)
  | last
  | fitting (pattern : LinePattern)
  deriving Repr

/-- Where a range of lines ends. -/
inductive RangeEnd
  | address (address : Address)
  /-- So many lines later. -/
  | count (lines : Nat)
  /-- At the next multiple. -/
  | multiple (of : Nat)
  deriving Repr

/-- The lines for which a command is done. -/
structure Selection where
  first? : Option Address := none
  until? : Option RangeEnd := none
  /-- The range has begun in front of the first line. -/
  fromStart : Bool := false
  negated : Bool := false
  deriving Repr

/-- How the letters of a replacement are written. -/
inductive Casing
  | asIs
  | upper
  | lower
  deriving DecidableEq, Repr

/-- A part of a replacement. -/
inductive Replacement
  | text (char : Char)
  /-- What a group fits; the group of number zero is all that is replaced. -/
  | group (number : Nat)
  | casing (casing : Casing)
  /-- Only the next letter is written in another way. -/
  | nextCasing (casing : Casing)
  deriving DecidableEq, Repr

/-- What is done where a pattern fits. -/
structure Substitution where
  pattern : LinePattern
  replacement : List Replacement
  /-- The first place that is replaced, counted from one. -/
  place : Nat := 1
  /-- All places behind it are replaced, too. -/
  everywhere : Bool := false
  prints : Bool := false
  file? : Option String := none
  deriving Repr

/-- What a command does. -/
inductive Action
  /-- Begins a block, which ends at a place. -/
  | block (finish : Nat)
  | nothing
  | insert (text : String)
  | append (text : String)
  | change (text : String)
  /-- Goes on at a place. -/
  | jump (goal : Nat)
  /-- Goes on at a place if a substitution was made, or if none was made. -/
  | jumpIf (made : Bool) (goal : Nat)
  | delete
  | deleteLine
  | hold
  | holdMore
  | fetch
  | fetchMore
  | exchange
  | next
  | nextMore
  | print
  | printLine
  | show
  | number
  | fileName
  | quit (status : Nat) (prints : Bool)
  | read (path : String)
  | readLine (path : String)
  | write (path : String)
  | writeLine (path : String)
  | substitute (substitution : Substitution)
  | replace (table : List (Char × Char))
  | empty
  deriving Repr

/-- A command with the lines for which it is done. -/
structure Command where
  selection : Selection
  action : Action
  deriving Repr

end SignatureAudit.Emulation.Utility.Edit
