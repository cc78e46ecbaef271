import SignatureAudit.Emulation.Shell.Run
import SignatureAudit.Text.Lines

/-!
# Starting programs

A program is found by its path, or by its name in the places where programs are. It is one of those
that every machine has, or a script: its first line names the program that runs it, otherwise the
shell does. The shell reads its own options and then a script. Programs run inside each other only
to a limited depth.
-/

namespace SignatureAudit.Emulation.Shell

open Running (shell modifyShell refuse complainAs)

/-! ## Finding programs -/

/-- A program that every machine has. -/
structure Tool where
  name : String
  utility : Utility
  /-- Whether its messages start with its name alone, however it was called. -/
  short : Bool := false

/-- Where the programs of every machine are. -/
def toolPlaces : List (List String) := [["bin"], ["usr", "bin"]]

/-- What a file is that can be run. -/
inductive Executable
  | shell
  | tool (tool : Tool)
  /-- A script for another program, which perhaps gets an argument. -/
  | scriptFor (program : String) (argument? : Option String)
  /-- A text without a first line that names a program. -/
  | text (text : String)
  /-- Something for a machine of another kind. -/
  | foreign

/-- The names of the shell. -/
def shellNames : List String := ["sh", "dash"]

/-- The program and the argument that the first line of a script names behind its mark. -/
def interpreter? (line : String) : Option (String × Option String) :=
  let isGap (c : Char) : Bool := c == ' ' || c == '\t'
  let cs := ((line.toList.dropWhile isGap).reverse.dropWhile isGap).reverse
  let program := cs.takeWhile (!isGap ·)
  let argument := (cs.drop program.length).dropWhile isGap
  if program.isEmpty then none
  else some (String.ofList program,
    if argument.isEmpty then none else some (String.ofList argument))

/-- What the file with some bytes is. -/
def Executable.ofBytes (bytes : ByteArray) : Executable :=
  let text := String.ofList (rawChars bytes)
  match Text.dropFront? "#!" text with
  | some rest =>
    let line := rest.toList.takeWhile (· ≠ '\n')
    match interpreter? (String.ofList line) with
    | some (program, argument?) => .scriptFor program argument?
    | none => .text text
  | none => if (Text.dropFront? "\x7fELF" text).isSome then .foreign else .text text

/-- What can be run at a place of a machine. -/
def executableAt (tools : List Tool) (m : Machine) (place : List String) :
    Except FileFault Executable :=
  match m.files.get? place with
  | none => .error .missing
  | some (.directory _) => .error .notPermitted
  | some (.file _ false) => .error .notPermitted
  | some (.file bytes true) =>
    let name := place.getLast?.getD ""
    if bytes.isEmpty && toolPlaces.contains place.dropLast then
      if shellNames.contains name then .ok .shell
      else
        match tools.find? (·.name = name) with
        | some tool => .ok (.tool tool)
        | none => .ok (.text "")
    else .ok (Executable.ofBytes bytes)

/-- What a path leads to. -/
def executableOf (tools : List Tool) (m : Machine) (path : String) :
    Except FileFault Executable := do
  executableAt tools m (← m.place path)

/-- The first of some faults that is no missing file. -/
def worstOf (faults : List FileFault) : FileFault :=
  (faults.find? fun f => f != .missing && f != .notDirectory).getD .missing

/-- The path of a program that is called by its path or by its name. Some places are for an
environment that does not say where programs are. -/
def pathOf (tools : List Tool) (m : Machine) (places : List String) (called : String) :
    Except FileFault String :=
  if called.toList.contains '/' then .ok called
  else if called = "" then .error .missing
  else
    let places := if (m.shell.value? "PATH").isSome then Builtin.searchPlaces m.shell else places
    let paths := places.map fun directory =>
      if directory = "" then called else FileNode.join directory called
    let found (path : String) : Bool := (executableOf tools m path).toOption.isSome
    match paths.find? found with
    | some path => .ok path
    | none => .error (worstOf (paths.filterMap fun path =>
        match executableOf tools m path with
        | .error fault => some fault
        | .ok _ => none))

/-! ## Running scripts -/

/-- Runs complete commands one after the other; the last one may take the place of the shell. -/
def runCommands (inner : Inner) (last : Bool) (status : Nat) : List Program → Running Nat
  | [] => pure status
  | [program] => run inner { last } program
  | program :: rest => do
    let status ← run inner {} program
    runCommands inner last status rest

/-- Runs a script whose first line has the given number. A fault behind its commands ends the shell.
-/
def runText (inner : Inner) (last : Bool) (text : String) (line : Nat) : Running Nat := do
  let script := Script.read line text
  let programs := script.commands.filter fun
    | .skip => false
    | _ => true
  let status ← runCommands inner (last && script.fault?.isNone) 0 programs
  match script.fault? with
  | none => pure status
  | some fault => do
    modifyShell fun c => { c with line := fault.line }
    refuse ("Syntax error: " ++ fault.cause.message)

/-! ## The shell -/

/-- What the options of the shell ask for. -/
structure Invocation where
  /-- The script is an argument. -/
  isText : Bool := false
  /-- The script is the input. -/
  isInput : Bool := false
  arguments : List String := []

/-- Reads the options in front of the arguments of the shell. -/
def invocation (found : Invocation) : List String → Running Invocation
  | [] => pure found
  | argument :: rest =>
    match argument.toList with
    | ['-'] | ['-', '-'] => pure { found with arguments := rest }
    | sign :: c :: cs => do
      if sign == '-' || sign == '+' then
        let letters := c :: cs
        let found := { found with
          isText := found.isText || (sign == '-' && letters.contains 'c')
          isInput := found.isInput || (sign == '-' && letters.contains 's') }
        let others := letters.filter fun c => !(['c', 's', 'l'].contains c)
        let named ← Builtin.switchAll (sign == '-') others
        match named, rest with
        | false, rest => invocation found rest
        | true, [] => pure found
        | true, name :: rest => do
          Builtin.switchNamed (sign == '-') name
          invocation found rest
      else pure { found with arguments := argument :: rest }
    | _ => pure { found with arguments := argument :: rest }

/-- Where a shell searches for programs if its environment does not say it. -/
def usualPath : String := "/usr/local/sbin:/usr/local/bin:/usr/sbin:/usr/bin:/sbin:/bin"

/-- The values that every shell starts with. -/
def withFirstValues (c : Context) : Context :=
  let fresh (name value : String) : String × Binding := (name, { value? := some value })
  let inherited := c.bindings.filter fun (name, _) =>
    !(["IFS", "OPTIND", "PPID"].contains name)
  let own := [fresh "IFS" " \t\n", fresh "OPTIND" "1", fresh "PPID" (toString c.parent),
    fresh "PS1" "# ", fresh "PS2" "> ", fresh "PS4" "+ ", fresh "PATH" usualPath]
  let missing := own.filter fun (name, _) => (inherited.lookup name).isNone
  { c with bindings := missing ++ inherited }.setExported "PWD" (Machine.pathText c.directory)

/-- Runs the shell with its arguments. -/
def runShell (inner : Inner) (args : List String) : Running Nat := do
  modifyShell fun c => { withFirstValues c with line := 0 }
  let i ← invocation {} args
  let start (change : Context → Context) (last : Bool) (text : String) : Running Nat := do
    modifyShell fun c => { change c with line := 1 }
    withTrap inner.script (runText inner last text 1)
  match i.isText, i.arguments with
  | true, [] => refuse "-c requires an argument"
  | true, [text] => start id true text
  | true, text :: name :: arguments => start (fun c => { c with name, arguments }) true text
  | false, arguments =>
    match i.isInput, arguments with
    | false, path :: arguments => do
      match (← get).node path with
      | .ok (.file bytes _) =>
        start (fun c => { c with name := path, arguments }) false
          (String.ofList (rawChars bytes))
      | .ok (.directory _) => pure 0
      | .error _ => refuse ("cannot open " ++ path ++ ": No such file")
    | _, arguments => do
      start (fun c => { c with arguments }) false (← Running.readAll 0)

/-! ## Running programs -/

/-- How a program takes its place among others. -/
structure Placing where
  /-- It takes the place of the shell that starts it. -/
  replaces : Bool := false
  /-- A text that names no program is a script for the shell. -/
  takesText : Bool := true
  /-- Where programs are if the environment does not say it. -/
  places : List String := []

/-- Runs a part as a program with a name. -/
def Placing.run (p : Placing) (name : String) (part : Running Nat) : Running Nat := do
  if p.replaces then
    let process := (← shell).process
    within (·.forProgram name process) (ending part)
  else asProgram name part

/-- The last name of a path. -/
def lastNameOf (path : String) : String := (path.splitOn "/").getLast?.getD path

/-- Starts what a path leads to under a name. Scripts for programs that are scripts themselves are
followed to a limited depth. -/
def startPath (tools : List Tool) (inner : Inner) (starting : Starting) (p : Placing) :
    (depth : Nat) → (name path : String) → List String → Running (Except FileFault Nat)
  | 0, _, _, _ => pure (.error .invalid)
  | depth + 1, name, path, args => do
    match executableOf tools (← get) path with
    | .error fault => pure (.error fault)
    | .ok .shell => .ok <$> p.run name (runShell inner args)
    | .ok (.tool tool) =>
      .ok <$> p.run (if tool.short then lastNameOf name else name) (tool.utility starting args)
    | .ok (.scriptFor program argument?) =>
      startPath tools inner starting p depth program program (argument?.toList ++ path :: args)
    | .ok (.text _) =>
      if p.takesText then .ok <$> p.run "sh" (runShell inner (path :: args))
      else pure (.error .notProgram)
    | .ok .foreign => pure (.error .notProgram)

/-- Starts a program that is called by its path or by its name. -/
def startCalled (tools : List Tool) (inner : Inner) (starting : Starting) (p : Placing) :
    List String → Running (Except FileFault Nat)
  | [] => pure (.error .missing)
  | called :: args => do
    match pathOf tools (← get) p.places called with
    | .error fault => pure (.error fault)
    | .ok path => startPath tools inner starting p 5 called path args

/-- Tells that a program cannot be started, and gives the outcome of the command. -/
def notStarted (called : String) (fault : FileFault) : Running Nat := do
  match fault with
  | .missing | .notDirectory => complainAs (called ++ ": not found") 127
  | fault =>
    let searched := !called.toList.contains '/'
    complainAs (called ++ ": " ++ fault.reason) (if searched then 127 else 126)

/-- How programs run each other. -/
structure Engine where
  inner : Inner
  starting : Starting

/-- How programs run each other, so many inside each other. -/
def Engine.ofTools (tools : List Tool) : (depth : Nat) → Engine
  | 0 => ⟨⟨fun _ _ => throw .late, fun _ => throw .late, fun _ _ => throw .late⟩,
      fun _ => throw .late⟩
  | depth + 1 =>
    let startWith (p : Placing) (words : List String) : Running (Except FileFault Nat) := do
      let e := Engine.ofTools tools depth
      startCalled tools e.inner e.starting p words
    { inner := {
        script := fun text line => runText (Engine.ofTools tools depth).inner false text line
        body := fun program => run (Engine.ofTools tools depth).inner {} program
        launch := fun replaces words => do
          modifyShell (·.grouped)
          match ← startWith { replaces } words with
          | .ok status => pure status
          | .error fault => notStarted (words.headD "") fault }
      starting := startWith { places := ["/bin", "/usr/bin"] } }

end SignatureAudit.Emulation.Shell
