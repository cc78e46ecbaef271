import SignatureAudit.Emulation.Shell.Machine

/-!
# Processes

A shell inside another works on a copy of its context: it keeps its changes to itself, and its end
is only an outcome. A program has a context of its own that knows the environment alone.
-/

namespace SignatureAudit.Emulation.Shell

open Running (modifyShell shell andFinally)

/-- How a script that stands in a text is run; its first line has a number. -/
abbrev Scripting := (text : String) → (line : Nat) → Running Nat

/-- What others see of the outcome of a process. -/
def seen (status : Nat) : Nat := status % 256

/-- The outcome of a part that perhaps ended early, if it is one. -/
def Halt.outcome? : Halt → Option Nat
  | .exited status | .returned status => some status
  | .refused => some 2
  | .left _ | .continued _ => some 0
  | .choked => some (Signal.outcome 13)
  | .killed .. | .late => none

/-- Runs a part and takes its early end for its outcome. -/
def ending (part : Running Nat) : Running Nat := do
  match ← ExceptT.lift part.run with
  | .ok status => pure status
  | .error halt =>
    match halt.outcome? with
    | some status => pure status
    | none => throw halt

/-- Runs a part and then what has to be done at the end of the shell. -/
def withTrap (script : Scripting) (part : Running Nat) : Running Nat := do
  let status ← ending part
  let c ← shell
  match c.traps.lookup "EXIT" with
  | none => pure (seen status)
  | some action =>
    modifyShell fun c =>
      { c with
        status, command? := none, tested := false, traps := c.traps.filter (·.1 ≠ "EXIT") }
    let ended ← ExceptT.lift (script action 1).run
    match ended with
    | .error (.exited other) => pure (seen other)
    | .error .refused => pure 2
    | .error (.killed process signal) => throw (.killed process signal)
    | .error .late => throw .late
    | _ => pure (seen status)

/-- Runs a part with a context of its own. -/
def within (change : Context → Context) (part : Running Nat) : Running Nat := do
  let before ← shell
  modifyShell change
  andFinally part (modifyShell fun _ => before)

/-- The traps of a shell inside another: only what is ignored stays so. -/
def innerTraps (traps : List (String × String)) : List (String × String) :=
  traps.filter (·.2 = "")

/-- Runs a part in a shell inside the current one. -/
def apart (script : Scripting) (part : Running Nat) : Running Nat :=
  within (fun c => { c with traps := innerTraps c.traps, loops := 0 }) (withTrap script part)

/-- The context of a program. -/
def Context.forProgram (c : Context) (name : String) (process : Nat) : Context :=
  { name, process
    parent := if process = c.process then c.parent else c.process
    bindings := c.bindings.filter (·.2.exported)
    traps := innerTraps c.traps
    directory := c.directory
    descriptors := c.descriptors
    job := c.job }

/-- Runs a part as a program. Its end by a signal is told. -/
def asProgram (name : String) (part : Running Nat) : Running Nat := do
  modify fun m => { m with processes := m.processes + 1 }
  let process := (← get).processes
  let ended ← ExceptT.lift (within (·.forProgram name process) (ending part)).run
  match ended with
  | .ok status => pure status
  | .error (.killed number signal) =>
    if number = process then
      match Signal.farewell? signal with
      | some words => Running.complain words (Signal.outcome signal)
      | none => pure (Signal.outcome signal)
    else throw (.killed number signal)
  | .error halt => throw halt

/-- What a part prints, and its outcome. The part runs in a shell of its own, and nothing depends on
the outcome. -/
def capture (script : Scripting) (part : Running Nat) : Running (String × Nat) := do
  let before ← shell
  let index := (← get).channels.size
  modify fun m => m.opened 1 (.stream [] [] 0 0)
  modifyShell fun c => { c with tested := false }
  let status ← andFinally (apart script part) (modifyShell fun _ => before)
  let m ← get
  let text := m.unread (m.channels[index]?.getD .nothing)
  set { m with channels := m.channels.setIfInBounds index .nothing }
  pure (String.ofList text, status)

/-- What a part prints, and its outcome. The part runs in the shell itself. -/
def Running.capturing {α : Type} (part : Running α) : Running (String × α) := do
  let before ← shell
  let index := (← get).channels.size
  modify fun m => m.opened 1 (.stream [] [] 0 0)
  let outcome ← andFinally part (modifyShell fun _ => before)
  let m ← get
  let text := m.unread (m.channels[index]?.getD .nothing)
  set { m with channels := m.channels.setIfInBounds index .nothing }
  pure (String.ofList text, outcome)

/-- Runs a part that reads a text. -/
def Running.feeding {α : Type} (text : String) (part : Running α) : Running α := do
  let before ← shell
  modify fun m => m.opened 0 (.stream text.toList [] 0 0)
  andFinally part (modifyShell fun _ => before)

/-- Runs two parts of which the second reads what the first writes. Both run at the same time. -/
def piped (script : Scripting) (first second : Running Nat) : Running Nat := do
  let before ← shell
  let start := (← get).elapsed
  let index := (← get).channels.size
  modify fun m => m.opened 1 (.stream [] [] 0 0)
  let _ ← andFinally (apart script first) (modifyShell fun _ => before)
  let ready := (← get).elapsed
  modify fun m =>
    let channel := match m.channels[index]? with
      | some (.stream front behind load _) => .stream front behind load ready
      | _ => .nothing
    { m.directed 0 (some index) with
      elapsed := start, channels := m.channels.setIfInBounds index channel }
  let status ← andFinally (apart script second) (modifyShell fun _ => before)
  modify fun m => { m with
    elapsed := max ready m.elapsed, channels := m.channels.setIfInBounds index .nothing }
  Running.done status

/-- Whether a descriptor leads to an output of the run. -/
def Machine.prints (m : Machine) (descriptor : Nat) : Bool :=
  match m.channel? descriptor with
  | some (.printed _) => true
  | _ => false

/-- The machine on which a job ends now by a signal, and prints nothing later. -/
def Machine.stopped (m : Machine) (number signal : Nat) : Machine :=
  { m with
    jobs := m.jobs.map fun job =>
      if job.number = number then { job with ends := m.elapsed, status := Signal.outcome signal }
      else job
    printed := m.printed.filter fun chunk => chunk.job ≠ number || chunk.time ≤ m.elapsed }

/-- Runs a part that nothing waits for. It is followed to its end, and the clock is set back. -/
def background (script : Scripting) (part : Running Nat) : Running Nat := do
  let start := (← get).elapsed
  modify fun m => { m with processes := m.processes + 1 }
  let m ← get
  let number := m.processes
  let prints := m.prints 1 || m.prints 2
  let ended ← ExceptT.lift (within
    (fun c => { c with job := number, tested := false })
    (do modify (·.opened 0 .nothing); apart script part)).run
  let (status, ends) ← match ended with
    | .ok status => do pure (status, (← get).elapsed)
    | .error .late => do pure (0, (← get).elapsed)
    | .error halt => throw halt
  modify fun m => { m with
    elapsed := start, jobs := ⟨number, ends, status, prints⟩ :: m.jobs }
  modifyShell fun c => { c with lastJob? := some number }
  Running.done 0

end SignatureAudit.Emulation.Shell
