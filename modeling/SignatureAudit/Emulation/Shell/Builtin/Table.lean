import SignatureAudit.Emulation.Shell.Builtin.Control
import SignatureAudit.Emulation.Shell.Builtin.Names

/-!
# The commands of the shell

All commands that are no programs, by their names.
-/

namespace SignatureAudit.Emulation.Shell.Builtin

/-- The commands that know nothing about the others. -/
def plain : List (String × Builtin) :=
  [(":", succeed), ("true", succeed), ("false", fail), (".", source), ("[", bracket),
   ("test", fun _ args => condition args), ("alias", succeed), ("bg", resume), ("fg", resume),
   ("break", leaving .left), ("cd", cd), ("chdir", cd), ("continue", leaving .continued),
   ("echo", echo), ("eval", eval), ("exec", exec), ("exit", exit), ("export", inherit),
   ("getopts", getopts), ("jobs", succeed), ("kill", kill), ("local", localize),
   ("printf", printf), ("pwd", pwd), ("read", readNames), ("readonly", fix), ("return", giveBack),
   ("set", setOptions), ("shift", shift), ("times", times), ("trap", trap), ("ulimit", ulimit),
   ("umask", umask), ("unalias", succeed), ("unset", unset), ("wait", wait)]

/-- The names of all commands. -/
def names : List String := "command" :: "hash" :: "type" :: plain.map (·.1)

/-- The command of a name. -/
def named? (name : String) : Option Builtin :=
  match name with
  | "command" => some (command names fun name => plain.lookup name)
  | "hash" => some (remember names)
  | "type" => some (type names)
  | name => plain.lookup name

/-- Whether a fault in a command ends the shell. -/
def isSpecial (name : String) : Bool := specials.contains name

/-- Runs a command of the shell. -/
def run (inner : Inner) (name : String) (builtin : Builtin) (args : List String) : Running Nat := do
  let about := (← Running.shell).command?
  Running.modifyShell fun c => { c with command? := some name }
  let ended ← ExceptT.lift (builtin inner args).run
  Running.modifyShell fun c => { c with command? := about }
  match ended with
  | .ok status => do
    if (← Running.shell).lost then
      Running.modifyShell fun c => { c with lost := false }
      Running.complainAs (name ++ ": " ++ name ++ ": I/O error") 1
    else pure status
  | .error .refused => if isSpecial name then throw .refused else pure 2
  | .error halt => throw halt

end SignatureAudit.Emulation.Shell.Builtin
