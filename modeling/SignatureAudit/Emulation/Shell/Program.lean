import SignatureAudit.Emulation.Shell.Token

/-!
# Shell programs

What a script says, after its reading. Commands keep the line on which they stand, because messages
name it.
-/

namespace SignatureAudit.Emulation.Shell

/-- The redirection of a descriptor. -/
inductive Redirect
  /-- To a file, or to where another descriptor leads. -/
  | file (descriptor : Nat) (direction : Direction) (target : Word)
  /-- To a document inside the script. -/
  | document (descriptor : Nat) (text : Word)
  deriving Repr

mutual

/-- A program. -/
inductive Program
  /-- Nothing is done. -/
  | skip
  /-- A command with its words, or only assignments. -/
  | command (line : Nat) (assignments : List (String × Word)) (words : List Word)
      (redirects : List Redirect)
  | sequence (first second : Program)
  /-- The second runs if the first succeeds. -/
  | both (first second : Program)
  /-- The second runs if the first fails. -/
  | either (first second : Program)
  /-- The second reads what the first writes. -/
  | pipe (first second : Program)
  | negate (program : Program)
  /-- Nothing waits for the program. -/
  | background (program : Program)
  /-- A program whose changes to the shell end with it. -/
  | apart (line : Nat) (program : Program)
  | redirected (line : Nat) (program : Program) (redirects : List Redirect)
  | conditional (test yes no : Program)
  /-- The body runs as long as the test has the given outcome. -/
  | loop (goesOn : Bool) (test body : Program)
  /-- The body runs for each of the words, or for each argument. -/
  | each (line : Nat) (name : String) (words? : Option (List Word)) (body : Program)
  | choice (line : Nat) (subject : Word) (branches : Branches)
  /-- A function gets its body. -/
  | define (name : String) (body : Program)
  deriving Repr, Inhabited

/-- The branches of a choice: the first with a pattern that fits runs. -/
inductive Branches
  | none
  | branch (patterns : List Word) (body : Program) (others : Branches)
  deriving Repr, Inhabited

end

end SignatureAudit.Emulation.Shell
