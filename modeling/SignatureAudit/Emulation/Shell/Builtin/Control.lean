import SignatureAudit.Emulation.Shell.Builtin.Basic
import SignatureAudit.Emulation.Shell.Reader

/-!
# Commands that lead elsewhere

The commands that end loops, functions and shells, run other commands, wait for them, and say what
to do at signals.
-/

namespace SignatureAudit.Emulation.Shell.Builtin

open Running (shell modifyShell refuse complainAs print printLine)

/-! ## Ends -/

/-- Ends some of the loops around a command, or lets the outermost of them go on. -/
def leaving (halt : Nat → Halt) : Builtin := fun _ args => do
  let count ← match args with
    | [] => pure 1
    | argument :: _ => do
      let n ← number argument
      if n = 0 then refuse ("Illegal number: " ++ argument) else pure n
  let loops := (← shell).loops
  if loops = 0 then pure 0 else throw (halt (min count loops))

/-- The outcome that an argument gives, or that of the last command. -/
def givenOutcome (args : List String) : Running Nat := do
  match args with
  | [] => pure (← shell).status
  | argument :: _ => number argument

/-- Ends a function or a script. -/
def giveBack : Builtin := fun _ args => do throw (.returned (← givenOutcome args))

/-- Ends the shell. -/
def exit : Builtin := fun _ args => do throw (.exited (← givenOutcome args))

/-! ## Other commands -/

/-- Runs its arguments as a script. -/
def eval : Builtin := fun inner args => do
  if args.isEmpty then pure 0 else inner.script (" ".intercalate args) 1

/-- The places at which a command is searched for. -/
def searchPlaces (c : Context) : List String :=
  match c.value? "PATH" with
  | some path => path.splitOn ":"
  | none => []

/-- The path of the first file of some name that is found where commands are. -/
def found? (m : Machine) (name : String) (suits : FileNode → Bool) : Option String :=
  ((searchPlaces m.shell).map fun directory =>
    if directory = "" then name else FileNode.join directory name).find? fun path =>
      (m.node? path).any suits

/-- Whether a node is a file. -/
def isFile (node : FileNode) : Bool := !node.isDirectory

/-- Whether a node is a program. -/
def isProgram : FileNode → Bool
  | .file _ runnable => runnable
  | .directory _ => false

/-- Runs the script in a file. -/
def source : Builtin := fun inner args => do
  match args with
  | [] => pure 0
  | name :: _ =>
    let m ← get
    let path? := if name.toList.contains '/' then some name else found? m name isFile
    match path? with
    | none => refuse (name ++ ": not found")
    | some path =>
      match m.node path with
      | .ok (.file bytes _) =>
        modifyShell fun c => { c with command? := some path }
        let script := inner.script (String.ofList (rawChars bytes)) 1
        let tested := (← shell).tested
        modifyShell fun c => { c with tested := false }
        let ended ← ExceptT.lift script.run
        modifyShell fun c => { c with tested }
        match ended with
        | .ok status | .error (.returned status) => pure status
        | .error halt => throw halt
      | _ => refuse ("cannot open " ++ path ++ ": No such file")

/-- Runs a program in the place of the shell; without a program only redirections are made, and they
stay. -/
def exec : Builtin := fun inner args => do
  match args with
  | [] => pure 0
  | _ =>
    let status ← inner.launch true args
    modifyShell fun c => { c with traps := [] }
    throw (.exited status)

/-- What a command is. -/
inductive CommandKind
  | keyword
  | function
  | special
  | builtin
  | program (path : String)
  deriving DecidableEq, Repr

/-- The commands of the shell that a script may not do without. -/
def specials : List String := unreplaceable

/-- What a command is, given the commands of the shell. -/
def kind? (m : Machine) (builtins : List String) (name : String) : Option CommandKind :=
  if reserved.contains name then some .keyword
  else if specials.contains name then some .special
  else if m.shell.functions.any (·.1 = name) then some .function
  else if builtins.contains name then some .builtin
  else if name.toList.contains '/' then
    if (m.node? name).any isProgram then some (.program name) else none
  else (found? m name isProgram).map .program

/-- What is said about a command. -/
def described (name : String) : Option CommandKind → String
  | some .keyword => name ++ " is a shell keyword"
  | some .function => name ++ " is a shell function"
  | some .special => name ++ " is a special shell builtin"
  | some .builtin => name ++ " is a shell builtin"
  | some (.program path) => name ++ " is " ++ path
  | none => name ++ ": not found"

/-- Remembers where programs are, which is not needed to find them again. -/
def remember (builtins : List String) : Builtin := fun _ args => do
  let (_, args) ← options "r" args
  let mut status := 0
  for name in args do
    if (kind? (← get) builtins name).isNone then
      status ← complainAs (name ++ ": not found") 1
  pure status

/-- Tells what commands are. -/
def type (builtins : List String) : Builtin := fun _ args => do
  let mut status := 0
  for name in args do
    let kind? := kind? (← get) builtins name
    printLine (described name kind?)
    if kind?.isNone then status := 127
  pure status

/-- Runs a command that is no function, or tells what commands are. The last argument runs commands
of the shell. -/
def command (builtins : List String) (run? : String → Option Builtin) : Builtin :=
  fun inner args => do
    let (options, args) ← options "pvV" args
    if options.any (·.1 = 'V') then type builtins inner (args.take 1)
    else if options.any (·.1 = 'v') then
      match args with
      | [] => pure 0
      | name :: _ =>
        match kind? (← get) builtins name with
        | some (.program path) =>
          printLine path
          pure 0
        | some _ =>
          printLine name
          pure 0
        | none => pure 127
    else
      match args with
      | [] => pure 0
      | name :: args =>
        match run? name with
        | some builtin =>
          modifyShell fun c => { c with command? := some name }
          match ← ExceptT.lift (builtin inner args).run with
          | .ok status => pure status
          | .error .refused => pure 2
          | .error halt => throw halt
        | none =>
          modifyShell fun c => { c with command? := none }
          inner.launch false (name :: args)

/-! ## Signals -/

/-- The name of a signal, or of the end of the shell, that an argument calls. -/
def trapName? (argument : String) : Option String :=
  if argument = "0" || argument = "EXIT" then some "EXIT"
  else (Signal.number? argument).bind Signal.name?

/-- Where what is done at a signal is listed. -/
def trapOrder (name : String) : Nat := (Signal.number? name).getD 0

/-- Says what to do at signals, or lists it. -/
def trap : Builtin := fun _ args => do
  let (_, args) ← options "" args
  match args with
  | [] =>
    let traps := (← shell).traps.mergeSort fun a b => trapOrder a.1 ≤ trapOrder b.1
    for (name, action) in traps do
      printLine ("trap -- " ++ quotedText action ++ " " ++ name)
    pure 0
  | action :: names =>
    let (action?, names) :=
      if names.isEmpty then (none, [action])
      else if action = "-" then (none, names)
      else if action.toNat?.isSome then (none, action :: names)
      else (some action, names)
    for name in names do
      match trapName? name with
      | none =>
        Running.put 2 ("trap: " ++ name ++ ": bad trap\n")
        return 1
      | some name =>
        modifyShell fun c =>
          let others := c.traps.filter (·.1 ≠ name)
          { c with traps := match action? with
              | some action => (name, action) :: others
              | none => others }
    pure 0

/-- Does what the shell does at a signal. -/
def receive (inner : Inner) (signal : Nat) : Running Unit := do
  let c ← shell
  let action? := if signal = 9 || signal = 19 then none
    else (Signal.name? signal).bind fun name => c.traps.lookup name
  match action? with
  | some "" => pure ()
  | some action =>
    modifyShell fun c => { c with command? := none, tested := false }
    let _ ← inner.script action 1
    modifyShell fun after => { after with status := c.status, tested := c.tested }
  | none =>
    if Signal.isStop signal then throw .late
    else if !Signal.isHarmless signal then throw (.killed c.process signal)

/-- Sends a signal to a process. -/
def send (inner : Inner) (signal : Nat) (target : String) : Running Nat := do
  let m ← get
  match target.toInt? with
  | none => refuse ("Illegal number: " ++ target)
  | some process =>
    if process = 0 || process = m.shell.process then
      receive inner signal
      pure 0
    else
      match m.jobs.find? fun job => process = job.number && m.elapsed < job.ends with
      | some job =>
        if Signal.isHarmless signal then pure 0
        else
          modify (·.stopped job.number signal)
          pure 0
      | none => complainAs "No such process\n" 1

/-- What is said about a wrong use of signals. -/
def killUsage : String :=
  "Usage: kill [-s sigspec | -signum | -sigspec] [pid | job]... or\nkill -l [exitstatus]"

/-- Sends a signal to processes. -/
def kill : Builtin := fun inner args => do
  let sendAll (signal : Nat) (targets : List String) : Running Nat := do
    if targets.isEmpty then refuse killUsage
    else
      let mut status := 0
      for target in targets do
        let outcome ← send inner signal target
        if outcome ≠ 0 then status := outcome
      pure status
  match args with
  | [] => refuse killUsage
  | "--" :: targets => sendAll 15 targets
  | ["-l"] =>
    for number in List.range (Signal.highest + 1) do printLine (Signal.listed number)
    pure 0
  | "-l" :: argument :: _ =>
    let n ← number argument
    let n := if n > 128 then n - 128 else n
    if 0 < n && n ≤ Signal.highest then
      printLine (Signal.listed n)
      pure 0
    else refuse ("invalid signal number or exit status: " ++ argument)
  | "-s" :: name :: targets =>
    match Signal.number? name with
    | some signal => sendAll signal targets
    | none => refuse ("invalid signal number or name: " ++ name)
  | first :: targets =>
    match first.toList with
    | '-' :: c :: cs =>
      match Signal.number? (String.ofList (c :: cs)) with
      | some signal => sendAll signal targets
      | none => refuse ("Illegal option -" ++ String.singleton c)
    | _ => sendAll 15 (first :: targets)

/-! ## Jobs -/

/-- Lets time pass until jobs have ended. -/
def waitUntil (time : Nat) : Running Unit := do Running.pass (time - (← get).elapsed)

/-- Goes on with a job that has been stopped; there is none. -/
def resume : Builtin := fun _ args => do
  match args with
  | [] => refuse "No current job"
  | name :: _ => refuse ("No such job: " ++ name)

/-- Waits for jobs. -/
def wait : Builtin := fun _ args => do
  match args with
  | [] =>
    for job in (← get).jobs do waitUntil job.ends
    pure 0
  | args =>
    let mut status := 0
    for argument in args do
      let jobs := (← get).jobs
      let job? ← match argument.toList with
        | '%' :: digits => do
          let n ← number (String.ofList digits)
          pure (jobs.reverse[n - 1]?)
        | _ => do
          let n ← number argument
          pure (jobs.find? (·.number = n))
      match job? with
      | none => status := 127
      | some job =>
        waitUntil job.ends
        status := job.status
        if 128 < job.status then
          match Signal.farewell? (job.status - 128) with
          | some words => Running.put 2 (words ++ "\n")
          | none => pure ()
    pure status

end SignatureAudit.Emulation.Shell.Builtin
