import SignatureAudit.Duration
import SignatureAudit.Emulation.Shell.Program
import SignatureAudit.Emulation.Shell.Signal
import SignatureAudit.Emulation.Text.Raw
import SignatureAudit.FileTree.Path

/-!
# The machine that scripts run on

A machine has files, channels that programs write to and read from, and a clock that only runs when
a program sleeps. What belongs to one shell, above all its variables and its descriptors, is a
`Context`; a shell inside another starts with a copy. Everything runs one thing after the other: a
program that nothing waits for is run to its end at once, and the clock is set back. What is printed
carries the time at which it was printed, so that in the end everything is in its place.
-/

namespace SignatureAudit.Emulation.Shell

/-- What descriptors lead to. -/
inductive Channel
  /-- One of the two outputs of the run. -/
  | printed (error : Bool)
  | nothing
  /-- A file with the place of the next character; or everything is written to its end. -/
  | file (place : List String) (offset : Nat) (appends : Bool)
  /-- What is written waits until it is read; the last part is the first behind the front. Its load
  grows with every part, and nothing can be read before it is ready. -/
  | stream (front : List Char) (behind : List String) (load ready : Nat)
  deriving Inhabited

/-- Something that was printed. -/
structure Chunk where
  error : Bool
  time : Nat
  /-- The job that has printed it. -/
  job : Nat
  text : String

/-- What a name stands for in a shell. -/
structure Binding where
  value? : Option String := none
  exported : Bool := false
  fixed : Bool := false
  deriving Inhabited

/-- What belongs to one shell. -/
structure Context where
  /-- What the messages of the shell start with. -/
  name : String
  arguments : List String := []
  bindings : List (String × Binding) := []
  functions : List (String × Program) := []
  /-- What to do at signals and at the end. -/
  traps : List (String × String) := []
  /-- Options that are switched on. -/
  options : List Char := []
  directory : List String := []
  /-- The channels of descriptors, by their number. -/
  descriptors : List (Nat × Nat) := [(0, 0), (1, 1), (2, 2)]
  /-- The number of the process. -/
  process : Nat := 1
  /-- The number of the process that started it. -/
  parent : Nat := 0
  /-- The job that the shell belongs to. -/
  job : Nat := 0
  lastJob? : Option Nat := none
  /-- The outcome of the last command. -/
  status : Nat := 0
  /-- The outcome of the last script in a word of the current command. -/
  substituted? : Option Nat := none
  /-- The line of the current command. -/
  line : Nat := 1
  /-- The command that a message is about. -/
  command? : Option String := none
  /-- The number of loops around the current command. -/
  loops : Nat := 0
  /-- The number of functions around the current command. -/
  depth : Nat := 0
  /-- What names stood for before they got a value of their own in the current function. -/
  hidden : List (String × Option Binding) := []
  /-- Whether the outcome of all that runs decides about another command. -/
  tested : Bool := false
  /-- Whether something could not be written. -/
  lost : Bool := false

/-- A program that nothing waits for. -/
structure Job where
  number : Nat
  ends : Nat
  status : Nat
  /-- Whether its outputs are those of the run. -/
  prints : Bool

/-- A machine on which a script runs. -/
structure Machine where
  shell : Context
  files : FileNode
  channels : Array Channel := #[.nothing, .printed false, .printed true]
  printed : Array Chunk := #[]
  jobs : List Job := []
  /-- The number of processes so far. -/
  processes : Nat := 1
  /-- How long the machine has run, in nanoseconds. -/
  elapsed : Nat := 0
  /-- How long it may run. -/
  limit : Option Duration := none
  /-- The number of rounds of loops so far. -/
  rounds : Nat := 0

/-- Why a program ends before its last command. -/
inductive Halt
  | exited (status : Nat)
  /-- A message has told why the shell cannot go on. -/
  | refused
  /-- A process by a signal. -/
  | killed (process signal : Nat)
  /-- It ran for too long. -/
  | late
  /-- So many loops end. -/
  | left (loops : Nat)
  /-- The innermost of so many loops ends, and the outermost of them goes on. -/
  | continued (loops : Nat)
  /-- The function or the script that was read ends. -/
  | returned (status : Nat)
  /-- It has written more to a stream than anything reads. -/
  | choked
  deriving DecidableEq, Repr

/-- A part of a running program. -/
abbrev Running := ExceptT Halt (StateM Machine)

/-! ## Values -/

namespace Context

/-- What a name stands for. -/
def binding? (c : Context) (name : String) : Option Binding := c.bindings.lookup name

/-- The value of a name. -/
def value? (c : Context) (name : String) : Option String := (c.binding? name).bind (·.value?)

/-- Makes a name stand for something; a new name stands behind the others. -/
def bind (c : Context) (name : String) (binding : Binding) : Context :=
  if c.bindings.any (·.1 = name) then
    { c with bindings := c.bindings.map fun (n, old) => (n, if n = name then binding else old) }
  else { c with bindings := c.bindings ++ [(name, binding)] }

/-- A name as it was before. -/
def rebind (c : Context) (name : String) (binding? : Option Binding) : Context :=
  match binding? with
  | some binding => c.bind name binding
  | none => { c with bindings := c.bindings.filter (·.1 ≠ name) }

/-- Whether an option is switched on. -/
def has (c : Context) (option : Char) : Bool := c.options.contains option

/-- Gives a value to a name. -/
def set (c : Context) (name value : String) : Context :=
  let old := (c.binding? name).getD {}
  c.bind name { old with value? := some value, exported := old.exported || c.has 'a' }

/-- Gives a value to a name that programs inherit. -/
def setExported (c : Context) (name value : String) : Context :=
  c.bind name { (c.binding? name).getD {} with value? := some value, exported := true }

/-- The number of groups in which names are kept. -/
def groups : Nat := 39

/-- The group in which a name is kept. -/
def groupOf (name : String) : Nat :=
  ((name.toList.head?.map Char.toNat).getD 0 * 16
    + name.toList.foldl (fun sum c => sum + c.toNat) 0) % groups

/-- The names in the order in which programs inherit them: one group after the other, each in the
order of time. -/
def grouped (c : Context) : Context :=
  { c with bindings := c.bindings.mergeSort fun a b => groupOf a.1 ≤ groupOf b.1 }

/-- The names that programs inherit, with their values. -/
def environment (c : Context) : List (String × String) :=
  c.bindings.filterMap fun (name, b) => if b.exported then b.value?.map (name, ·) else none

/-- The value of a position, counted from one. -/
def argument? (c : Context) (position : Nat) : Option String := c.arguments[position - 1]?

/-- The characters that separate words. -/
def separators (c : Context) : List Char := ((c.value? "IFS").getD " \t\n").toList

/-- The text that stands between arguments that are joined. -/
def joint (c : Context) : String :=
  match c.value? "IFS" with
  | none => " "
  | some text => String.ofList (text.toList.take 1)

/-- The value of a name, a position or a special parameter. -/
def parameter? (c : Context) (name : String) : Option String :=
  match name with
  | "?" => some (toString c.status)
  | "#" => some (toString c.arguments.length)
  | "$" => some (toString c.process)
  | "!" => c.lastJob?.map toString
  | "-" => some (String.ofList c.options)
  | "0" => some c.name
  | "@" | "*" => some (c.joint.intercalate c.arguments)
  | _ =>
    match name.toNat? with
    | some position => c.argument? position
    | none => c.value? name

end Context

/-! ## Files -/

namespace Machine

/-- The place that a path leads to. -/
def place (m : Machine) (path : String) : Except FileFault (List String) := do
  (← FilePath.ofText (cooked path)).find m.files m.shell.directory

/-- What a path leads to. -/
def node (m : Machine) (path : String) : Except FileFault FileNode :=
  m.files.find m.shell.directory (cooked path)

/-- What a path leads to, if anything. -/
def node? (m : Machine) (path : String) : Option FileNode := (m.node path).toOption

/-- The place of a file to write to, which may not be there yet. -/
def writable (m : Machine) (path : String) : Except FileFault (List String) := do
  (← FilePath.ofText (cooked path)).findWritable m.files m.shell.directory

/-- Puts bytes into the file at a place; a file that was there stays a program if it is one. -/
def fill (m : Machine) (place : List String) (bytes : ByteArray) : Machine :=
  let runnable := match m.files.get? place with
    | some (.file _ runnable) => runnable
    | _ => false
  { m with files := FileNode.deposit (.file bytes runnable) place m.files }

/-- The text of a place, as a path from the root. -/
def pathText (place : List String) : String := raw ("/" ++ "/".intercalate place)

/-! ## Channels -/

/-- The channel of a descriptor. -/
def channel? (m : Machine) (descriptor : Nat) : Option Channel := do
  m.channels[(← m.shell.descriptors.lookup descriptor)]?

/-- The machine with another channel in the place of that of a descriptor. -/
def withChannel (m : Machine) (descriptor : Nat) (channel : Channel) : Machine :=
  match m.shell.descriptors.lookup descriptor with
  | some index => { m with channels := m.channels.setIfInBounds index channel }
  | none => m

/-- The machine with a descriptor that leads to a channel by its number, or nowhere. -/
def directed (m : Machine) (descriptor : Nat) (index? : Option Nat) : Machine :=
  let others := m.shell.descriptors.filter (·.1 ≠ descriptor)
  { m with shell := { m.shell with descriptors :=
      match index? with
      | some index => (descriptor, index) :: others
      | none => others } }

/-- The machine with a descriptor that leads to a new channel. -/
def opened (m : Machine) (descriptor : Nat) (channel : Channel) : Machine :=
  { m with channels := m.channels.push channel }.directed descriptor (some m.channels.size)

/-- What can be read from a channel. -/
def unread (m : Machine) : Channel → List Char
  | .stream front behind _ _ =>
    if behind.isEmpty then front else front ++ behind.reverse.flatMap String.toList
  | .file place offset _ =>
    match m.files.get? place with
    | some (.file bytes _) => rawChars (bytes.extract offset bytes.size)
    | _ => []
  | .printed _ | .nothing => []

/-- The next line of a channel with its newline, if it has one; nothing at the end. -/
def nextLine (m : Machine) : Channel → List Char
  | .file place offset _ =>
    match m.files.get? place with
    | some (.file bytes _) =>
      let size := match bytes.findIdx? (· == 10) offset with
        | some newline => newline + 1
        | none => bytes.size
      rawChars (bytes.extract offset size)
    | _ => []
  | channel =>
    let text := m.unread channel
    text.take ((text.takeWhile (· ≠ '\n')).length + 1)

/-- A channel from which characters have been read. -/
def advanced (m : Machine) (channel : Channel) (count : Nat) : Channel :=
  match channel with
  | .stream _ _ load ready => .stream ((m.unread channel).drop count) [] load ready
  | .file place offset appends => .file place (offset + count) appends
  | channel => channel

/-- The bytes of a file in which some stand at an offset. -/
def overwritten (old : ByteArray) (offset : Nat) (new : ByteArray) : ByteArray :=
  old.extract 0 offset ++ ⟨Array.replicate (offset - old.size) 0⟩ ++ new
    ++ old.extract (offset + new.size) old.size

end Machine

namespace Running

/-- The state of the shell. -/
def shell : Running Context := do return (← get).shell

/-- Changes the state of the shell. -/
def modifyShell (f : Context → Context) : Running Unit :=
  modify fun m => { m with shell := f m.shell }

/-- Does something after a part, however it ends. -/
def andFinally {α : Type} (part : Running α) (after : Running Unit) : Running α := do
  let ended ← ExceptT.lift part.run
  after
  match ended with
  | .ok a => pure a
  | .error halt => throw halt

/-- Lets time pass. The program ends when it has no time left. -/
def pass (nanoseconds : Nat) : Running Unit := do
  modify fun m => { m with elapsed := m.elapsed + nanoseconds }
  let m ← get
  match m.limit with
  | some limit => if limit.nanoseconds ≤ m.elapsed then throw .late
  | none => pure ()

/-- The rounds of loops after which a machine has no time left. -/
def mostRounds : Nat := 400000

/-- How long a round of a loop takes at least, in nanoseconds. -/
def roundTime : Nat := 2000

/-- Starts a round of a loop. Rounds take no time on the clock, but a program that does nothing else
has no time left in the end. -/
def startRound : Running Unit := do
  modify fun m => { m with rounds := m.rounds + 1 }
  let m ← get
  if mostRounds ≤ m.rounds then throw .late
  match m.limit with
  | some limit => if limit.nanoseconds ≤ m.elapsed + m.rounds * roundTime then throw .late
  | none => pure ()

/-- The most that a stream holds; whoever goes on writing when nothing is read is ended. -/
def capacity : Nat := 16777216

/-- What a text counts in a stream. -/
def load (text : String) : Nat := max 256 text.utf8ByteSize

/-- Writes text to a descriptor. -/
def put (descriptor : Nat) (text : String) : Running Unit := do
  let m ← get
  match m.channel? descriptor with
  | none => modifyShell fun c => { c with lost := true }
  | some .nothing => pure ()
  | some (.printed error) =>
    set { m with printed := m.printed.push ⟨error, m.elapsed, m.shell.job, text⟩ }
  | some (.file place offset appends) =>
    let old := match m.files.get? place with
      | some (.file bytes _) => bytes
      | _ => .empty
    let new := rawBytes text.toList
    let start := if appends then old.size else offset
    let m := m.fill place (Machine.overwritten old start new)
    set (m.withChannel descriptor (.file place (start + new.size) appends))
  | some (.stream front behind used ready) =>
    let used := used + load text
    if capacity < used then throw .choked
    else set (m.withChannel descriptor (.stream front (text :: behind) used ready))

/-- Writes text to the output. -/
def print (text : String) : Running Unit := put 1 text

/-- Writes a line to the output. -/
def printLine (text : String) : Running Unit := print (text ++ "\n")

/-- Reads a part of what is left of a descriptor, when it is ready. -/
def read (descriptor : Nat) (part : Machine → Channel → List Char) : Running String := do
  match (← get).channel? descriptor with
  | some (.stream _ _ _ ready) => pass (ready - (← get).elapsed)
  | _ => pure ()
  let m ← get
  match m.channel? descriptor with
  | none => pure ""
  | some channel =>
    let text := part m channel
    set (m.withChannel descriptor (m.advanced channel text.length))
    pure (String.ofList text)

/-- Reads all that is left of a descriptor. -/
def readAll (descriptor : Nat) : Running String := read descriptor Machine.unread

/-- Reads a line of a descriptor with its newline, if the text has one; nothing at the end. -/
def readLine (descriptor : Nat) : Running String := read descriptor Machine.nextLine

/-- Writes a message of a program, and gives its outcome. -/
def complain (message : String) (status : Nat) : Running Nat := do
  put 2 (message ++ "\n")
  pure status

/-- What a message of the shell starts with. -/
def heading : Running String := do
  let c ← shell
  let about := match c.command? with
    | some command => command ++ ": "
    | none => ""
  pure (c.name ++ ": " ++ toString c.line ++ ": " ++ about)

/-- Writes a message of the shell, and gives the outcome of the command. -/
def complainAs (message : String) (status : Nat) : Running Nat := do
  complain ((← heading) ++ message) status

/-- Writes a message of the shell, which cannot go on. -/
def refuse {α : Type} (message : String) : Running α := do
  let _ ← complainAs message 2
  throw .refused

/-- Gives a value to a name, unless it has one for good. -/
def assign (name value : String) : Running Unit := do
  if ((← shell).binding? name).any (·.fixed) then refuse (name ++ ": is read only")
  else modifyShell (·.set name value)

/-- Remembers the outcome of a command. -/
def done (status : Nat) : Running Nat := do
  modifyShell fun c => { c with status }
  pure status

end Running

end SignatureAudit.Emulation.Shell
