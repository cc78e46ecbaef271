import SignatureAudit.Emulation.Shell.Builtin.Table
import SignatureAudit.Emulation.Shell.Redirection

/-!
# Running shell programs

A program gives an outcome, zero for success, and changes the machine. Loops are followed for a
limited number of rounds, and a script that is still in one then counts as one that never ends.
-/

namespace SignatureAudit.Emulation.Shell

open Running (shell modifyShell refuse complainAs done)

/-- What a program is part of. -/
structure Mode where
  /-- The outcome decides about something, so that a failure is no reason to end the shell. -/
  tested : Bool := false
  /-- Nothing follows, so that a program can take the place of the shell. -/
  last : Bool := false

/-- Remembers an outcome; a failure may end the shell. -/
def Mode.done (mode : Mode) (status : Nat) : Running Nat := do
  modifyShell fun c => { c with status }
  let c ← shell
  if status ≠ 0 && !mode.tested && !c.tested && c.has 'e' then throw (.exited status)
  else pure status

/-! ## Commands -/

/-- Gives values to names, one after the other; `keep` says how. Answers what was assigned. -/
def assignAll (script : Scripting) (keep : String → String → Running Unit) :
    List (String × Word) → Running (List (String × String))
  | [] => pure []
  | (name, word) :: rest => do
    let value ← word.text script true
    keep name value
    let others ← assignAll script keep rest
    pure ((name, value) :: others)

/-- Shows a command in front of its run, if this is asked for. -/
def trace (index? : Option Nat) (assigned : List (String × String)) (fields : List String) :
    Running Unit := do
  let c ← shell
  if c.has 'x' then
    let texts := assigned.map (fun (name, value) => name ++ "=" ++ value) ++ fields
    let mark := (c.value? "PS4").getD "+ "
    within
      (fun c => { c with descriptors :=
        (index?.map fun index => [(2, index)]).getD c.descriptors })
      (do Running.put 2 (mark ++ " ".intercalate texts ++ "\n"); pure 0) >>= fun _ => pure ()

/-- Gives a value to a name that programs inherit, for one command. -/
def lend (name value : String) : Running Unit := do
  if ((← shell).binding? name).any (·.fixed) then refuse (name ++ ": is read only")
  else modifyShell (·.setExported name value)

/-- The number of functions that can be run inside each other. -/
def depthLimit : Nat := 1000

/-- Runs a function. Its assignments and its local names end with it. -/
def runFunction (inner : Inner) (mode : Mode) (assignments : List (String × Word)) (body : Program)
    (args : List String) : Running Nat := do
  let before ← shell
  if depthLimit ≤ before.depth then
    refuse ("Maximum function recursion depth (" ++ toString depthLimit ++ ") reached")
  else
    let hidden := assignments.map fun (name, _) => (name, before.binding? name)
    let _ ← assignAll inner.script lend assignments
    modifyShell fun c =>
      { c with
        arguments := args, loops := 0, depth := before.depth + 1, hidden
        tested := c.tested || mode.tested }
    let ended ← ExceptT.lift (inner.body body).run
    modifyShell fun c =>
      { c.hidden.foldl (fun c (name, old) => c.rebind name old) c with
        arguments := before.arguments, loops := before.loops, depth := before.depth
        hidden := before.hidden, tested := before.tested }
    match ended with
    | .ok status | .error (.returned status) => pure status
    | .error halt => throw halt

/-- Runs a command of the shell. -/
def runBuiltin (inner : Inner) (mode : Mode) (name : String) (builtin : Builtin)
    (args : List String) : Running Nat := do
  let tested := (← shell).tested
  modifyShell fun c => { c with tested := tested || mode.tested }
  Running.andFinally (Builtin.run inner name builtin args) (modifyShell fun c => { c with tested })

/-- Whether the arguments of a command can be assignments, which stay whole. -/
def declares (words : List Word) : Bool :=
  match words.filterMap Word.bare? with
  | "export" :: _ | "readonly" :: _ | "local" :: _ => (words.head?.bind Word.bare?).isSome
  | "command" :: "export" :: _ | "command" :: "readonly" :: _ => true
  | _ => false

/-- The fields of the words of a command. -/
def commandFields (script : Scripting) (whole : Bool) : List Word → Running (List String)
  | [] => pure []
  | word :: rest => do
    let first ← match if whole then word.assignment? else none with
      | some (name, value) => do pure [name ++ "=" ++ (← value.text script true)]
      | none => word.fields script
    let others ← commandFields script whole rest
    pure (first ++ others)

/-- Runs what the fields of a command name. -/
def runFields (inner : Inner) (mode : Mode) (index? : Option Nat)
    (assignments : List (String × Word)) : List String → Running Nat
  | [] => do
    let assigned ← assignAll inner.script Running.assign assignments
    if !assigned.isEmpty then trace index? assigned []
    pure ((← shell).substituted?.getD 0)
  | name :: args => do
    let c ← shell
    let function? := if Builtin.isSpecial name then none else c.functions.lookup name
    match function?, Builtin.named? name with
    | some body, _ => do
      trace index? [] (name :: args)
      runFunction inner mode assignments body args
    | none, some builtin => do
      if Builtin.isSpecial name then
        let assigned ← assignAll inner.script Running.assign assignments
        trace index? assigned (name :: args)
        runBuiltin inner mode name builtin args
      else
        let before := assignments.map fun (name, _) => name
        let old ← shell
        let assigned ← assignAll inner.script lend assignments
        trace index? assigned (name :: args)
        Running.andFinally (runBuiltin inner mode name builtin args)
          (modifyShell fun c =>
            before.foldl (fun c name => c.rebind name (old.binding? name)) c)
    | none, none => do
      let old ← shell
      let assigned ← assignAll inner.script lend assignments
      trace index? assigned (name :: args)
      Running.andFinally (inner.launch (mode.last && old.traps.isEmpty) (name :: args))
        (modifyShell fun c => { c with bindings := old.bindings })

/-- Runs a command. -/
def runCommand (inner : Inner) (mode : Mode) (line : Nat) (assignments : List (String × Word))
    (words : List Word) (redirects : List Redirect) : Running Nat := do
  modifyShell fun c => { c with line, substituted? := none }
  let fields ← commandFields inner.script (declares words) words
  let index? := (← shell).descriptors.lookup 2
  if fields = ["exec"] then
    let status ← runFields inner mode index? assignments fields
    match ← redirect inner.script redirects with
    | none => pure status
    | some message => refuse message
  else
    redirected inner.script redirects (fields.head?.any Builtin.isSpecial)
      (runFields inner mode index? assignments fields)

/-! ## Loops -/

/-- The number of rounds of a loop that are followed. -/
def rounds : Nat := 1000000

/-- How a part of a loop ends. -/
inductive Round
  | ended (status : Nat)
  /-- The loop ends. -/
  | left
  /-- The next round starts. -/
  | continued
  deriving DecidableEq, Repr

/-- Runs a part of a loop, in which commands can end it or other loops around it. -/
def round (part : Running Nat) : Running Round := do
  modifyShell fun c => { c with loops := c.loops + 1 }
  let ended ← ExceptT.lift part.run
  modifyShell fun c => { c with loops := c.loops - 1 }
  match ended with
  | .ok status => pure (.ended status)
  | .error (.left n) => if n ≤ 1 then pure .left else throw (.left (n - 1))
  | .error (.continued n) => if n ≤ 1 then pure .continued else throw (.continued (n - 1))
  | .error halt => throw halt

/-- Follows a loop as long as its test has the given outcome; its own outcome is that of its last
round. -/
def iterate (goesOn : Bool) (test body : Running Nat) : (rounds : Nat) → (last : Nat) → Running Nat
  | 0, _ => throw .late
  | rounds + 1, last => do
    Running.startRound
    match ← round test with
    | .left => pure 0
    | .continued => iterate goesOn test body rounds last
    | .ended status =>
      if (status == 0) != goesOn then pure last
      else
        match ← round body with
        | .left => pure 0
        | .continued => iterate goesOn test body rounds 0
        | .ended status => iterate goesOn test body rounds status

/-- Runs a part once for each of some values of a name. -/
def forEach (name : String) (body : Running Nat) : List String → (last : Nat) → Running Nat
  | [], last => pure last
  | value :: rest, _ => do
    Running.assign name value
    match ← round body with
    | .left => pure 0
    | .continued => forEach name body rest 0
    | .ended status => forEach name body rest status

/-! ## Programs -/

/-- Whether one of some patterns fits a text. -/
def anyFits (script : Scripting) (subject : List Char) : List Word → Running Bool
  | [] => pure false
  | word :: rest => do
    if (← word.pattern script).fits subject then pure true else anyFits script subject rest

mutual

/-- Runs a program. -/
def run (inner : Inner) (mode : Mode) : Program → Running Nat
  | .skip => do pure (← shell).status
  | .command line assignments words redirects => do
    if (← shell).has 'n' then pure 0
    else mode.done (← runCommand inner mode line assignments words redirects)
  | .sequence first second => do
    let _ ← run inner { mode with last := false } first
    run inner mode second
  | .both first second => do
    let status ← run inner { tested := true } first
    if status = 0 then run inner mode second else pure status
  | .either first second => do
    let status ← run inner { tested := true } first
    if status = 0 then pure status else run inner mode second
  | .pipe first second => do
    let tested : Mode := { tested := mode.tested }
    mode.done (← piped inner.script (run inner tested first) (run inner tested second))
  | .negate program => do
    let status ← run inner { tested := true } program
    done (if status = 0 then 1 else 0)
  | .background program => background inner.script (run inner {} program)
  | .apart line program => do
    modifyShell fun c => { c with line }
    mode.done (← apart inner.script (run inner { tested := mode.tested } program))
  | .redirected line program redirects => do
    modifyShell fun c => { c with line }
    done (← redirected inner.script redirects false
      (run inner { tested := mode.tested } program))
  | .conditional test yes no => do
    let status ← run inner { tested := true } test
    if status = 0 then run inner mode yes
    else
      let _ ← done 0
      run inner mode no
  | .loop goesOn test body => do
    let test := run inner { tested := true } test
    let body := run inner { tested := mode.tested } body
    done (← iterate goesOn test body rounds 0)
  | .each line name words? body => do
    modifyShell fun c => { c with line }
    let values ← match words? with
      | some words => commandFields inner.script false words
      | none => do pure (← shell).arguments
    done (← forEach name (run inner { tested := mode.tested } body) values 0)
  | .choice line subject branches => do
    modifyShell fun c => { c with line }
    let text ← subject.text inner.script
    choose inner mode text.toList branches
  | .define name body => do
    modifyShell fun c =>
      { c with functions := (name, body) :: c.functions.filter (·.1 ≠ name) }
    done 0

/-- Runs the first branch with a pattern that fits. -/
def choose (inner : Inner) (mode : Mode) (subject : List Char) : Branches → Running Nat
  | .none => done 0
  | .branch patterns body others => do
    if ← anyFits inner.script subject patterns then
      match body with
      | .skip => done 0
      | _ => run inner mode body
    else choose inner mode subject others

end

end SignatureAudit.Emulation.Shell
