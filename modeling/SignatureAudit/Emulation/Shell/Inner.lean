import SignatureAudit.Emulation.Shell.Process

/-!
# What programs run

Commands run scripts, bodies of functions and programs. How they do it is given to them as an
`Inner`, so that each command can be described by itself.
-/

namespace SignatureAudit.Emulation.Shell

/-- How a command runs others. -/
structure Inner where
  /-- Runs a script that stands in a text. -/
  script : Scripting
  /-- Runs the body of a function. -/
  body : Program → Running Nat
  /-- Runs a program with its arguments, perhaps in the place of the shell. -/
  launch : (replaces : Bool) → List String → Running Nat

/-- A command of the shell: what it does with its arguments. -/
abbrev Builtin := Inner → List String → Running Nat

/-- How a program runs others, which perhaps cannot be started. -/
abbrev Starting := List String → Running (Except FileFault Nat)

/-- A program that machines have: what it does with its arguments, given how it runs others. -/
abbrev Utility := (start : Starting) → List String → Running Nat

end SignatureAudit.Emulation.Shell
