import SignatureAudit.Emulation.Text.Regex.Basic

/-!
# Scripts for records

A script for records has rules, each with a pattern for the records that it is about, and functions.
Its expressions give values, its statements use them.
-/

namespace SignatureAudit.Emulation.Utility.Record

/-- An operation on two numbers. -/
inductive NumberOp
  | add
  | subtract
  | multiply
  | divide
  | remainder
  | power
  deriving DecidableEq, Repr

/-- A comparison of two values. -/
inductive Comparison
  | less
  | atMost
  | same
  | differs
  | greater
  | atLeast
  deriving DecidableEq, Repr

/-- What is compared with a regular expression, or with a text that writes one. -/
inductive Expr
  | number (value : Float)
  | text (text : String)
  /-- Whether the record fits. -/
  | regex (regex : Regex)
  | name (name : String)
  | element (array : String) (subscripts : List Expr)
  | field (index : Expr)
  | assign (target : Expr) (op? : Option NumberOp) (value : Expr)
  | conditional (test yes no : Expr)
  | both (first second : Expr)
  | either (first second : Expr)
  | deny (inner : Expr)
  | isIn (subscripts : List Expr) (array : String)
  | fits (isTrue : Bool) (subject pattern : Expr)
  | calculate (op : NumberOp) (first second : Expr)
  | compare (op : Comparison) (first second : Expr)
  | join (first second : Expr)
  | negate (inner : Expr)
  | plus (inner : Expr)
  /-- Adds one or takes it away, before or after the value is taken. -/
  | step (target : Expr) (up first : Bool)
  | call (function : String) (arguments : List Expr)
  | builtin (function : String) (arguments : List Expr)
  /-- Reads a record of the input. -/
  | next (targets : List Expr)
  | nextOfFile (file : Expr) (targets : List Expr)
  | nextOfCommand (command : Expr) (targets : List Expr)
  /-- Values in parentheses with commas between them. -/
  | list (items : List Expr)
  deriving Inhabited

/-- Where something is printed. -/
inductive Outlet
  | standard
  | file (path : Expr) (appends : Bool)
  | command (command : Expr)

/-- A statement. -/
inductive Statement
  | value (value : Expr)
  | print (arguments : List Expr) (outlet : Outlet)
  | format (arguments : List Expr) (outlet : Outlet)
  | block (statements : List Statement)
  | conditional (test : Expr) (yes : Statement) (no? : Option Statement)
  | loop (test : Expr) (body : Statement)
  | loopOnce (body : Statement) (test : Expr)
  | count (first? : Option Statement) (test? : Option Expr) (next? : Option Statement)
      (body : Statement)
  | each (name array : String) (body : Statement)
  | next
  | nextFile
  | exit (status? : Option Expr)
  | give (value? : Option Expr)
  | leave
  | goOn
  | delete (array : String) (subscripts : List Expr)
  deriving Inhabited

/-- The records that a rule is about. -/
inductive Pattern
  | start
  | finish
  | always
  | test (test : Expr)
  | range (first last : Expr)

/-- A rule: what is done with records. Without a body they are printed. -/
structure Rule where
  pattern : Pattern
  body? : Option Statement

/-- A function. -/
structure Function where
  name : String
  parameters : List String
  body : Statement

/-- A script for records. -/
structure Script where
  rules : List Rule
  functions : List Function
  /-- The names that stand for arrays. -/
  arrays : List String

end SignatureAudit.Emulation.Utility.Record
