import SignatureAudit.Emulation.Utility.Output

/-!
# Programs that run others

The programs that run another one with other names in its environment, for a limited time, or once
for words that they read, and the programs that only wait.
-/

namespace SignatureAudit.Emulation.Utility

open Shell (Running Machine Utility Binding Starting)
open Shell.Running (print printLine modifyShell)

/-- The outcome of a program that cannot be started. -/
def startOutcome (fault : FileFault) : Nat :=
  match fault with
  | .missing | .notDirectory => 127
  | _ => 126

/-! ## Names -/

/-- The environment as lines. -/
def environmentLines : Running (List String) := do
  return (← Running.shell).environment.map fun (name, value) => name ++ "=" ++ value

/-- The name and the value that a word assigns. -/
def assignment? (word : String) : Option (String × String) :=
  match word.splitOn "=" with
  | name :: part :: parts => some (name, "=".intercalate (part :: parts))
  | _ => none

/-- Gives a value to a name of the environment. -/
def exportName (name value : String) : Running Unit :=
  modifyShell fun c =>
    let binding : Binding := { value? := some value, exported := true }
    if (c.binding? name).isSome then
      { c with bindings := c.bindings.map fun (n, old) => (n, if n = name then binding else old) }
    else { c with bindings := c.bindings ++ [(name, binding)] }

/-- Shows the environment, or runs a program in a changed one. -/
def env : Utility := fun start =>
  withStyle { inFront := true, misused := 125 }
    [letter 'i' ["ignore-environment"], taking 'u' ["unset"], letter '0' ["null"],
     taking 'C' ["chdir"], taking 'S' ["split-string"], letter 'v' ["debug"]]
    fun g => do
      let operands := match g.last? "S" with
        | some text => (text.splitOn " ").filter (· ≠ "") ++ g.operands
        | none => g.operands
      let empty := g.has "i" || operands.head? = some "-"
      let operands := if operands.head? = some "-" then operands.drop 1 else operands
      if empty then modifyShell fun c => { c with bindings := [] }
      for name in g.all "u" do
        modifyShell fun c => { c with bindings := c.bindings.filter (·.1 ≠ name) }
      let assigned := operands.takeWhile fun word => (assignment? word).isSome
      for (name, value) in assigned.filterMap assignment? do
        exportName name value
      match operands.drop assigned.length with
      | [] => do
        let lines ← environmentLines
        if g.has "0" then print (String.join (lines.map (· ++ "\x00"))) else printLines lines
        pure 0
      | program :: args => do
        match ← start (program :: args) with
        | .ok status => pure status
        | .error fault => fail (quoted program ++ ": " ++ fault.reason) (startOutcome fault)

/-- Shows the environment, or the values of some names. -/
def printenv : Utility := fun _ =>
  withStyle { inFront := true, misused := 2 } [letter '0' ["null"]] fun g => do
    let finish := if g.has "0" then "\x00" else "\n"
    if g.operands.isEmpty then
      print (String.join ((← environmentLines).map (· ++ finish)))
      pure 0
    else
      let values := (← Running.shell).environment
      print (String.join (g.operands.filterMap fun name => (values.lookup name).map (· ++ finish)))
      pure (if g.operands.all fun name => (values.lookup name).isSome then 0 else 1)

/-! ## Time -/

/-- The nanoseconds of a time with a unit. -/
def interval? (text : String) : Option Nat := do
  let unit (c : Char) : Option Nat :=
    match c with
    | 's' => some 1
    | 'm' => some 60
    | 'h' => some 3600
    | 'd' => some 86400
    | _ => none
  if text = "infinity" || text = "inf" then some (Nat.pow 10 18)
  else
    let (seconds, factor) := match text.toList.getLast?.bind unit with
      | some factor => (String.ofList text.toList.dropLast, factor)
      | none => (text, 1)
    let d ← Decimal.read? seconds
    if d.digits < 0 then none else some (d.nanoseconds * factor)

/-- Waits for the sum of some times. -/
def sleep : Utility := fun _ =>
  withOptions [] fun g => do
    if g.operands.isEmpty then misuse "missing operand"
    else
      let wrong := g.operands.filter fun text => (interval? text).isNone
      match wrong.getLast? with
      | some last => do
        for text in wrong.dropLast do warn ("invalid time interval " ++ quoted text)
        misuse ("invalid time interval " ++ quoted last)
      | none => do
        Running.pass ((g.operands.filterMap interval?).foldl (· + ·) 0)
        pure 0

/-- Runs a part for a limited time; answers nothing if the time is over before it ends. -/
def within? (time : Nat) (part : Running (Except FileFault Nat)) :
    Running (Option (Except FileFault Nat)) := do
  let m ← get
  let outer := m.limit
  let finish := m.elapsed + time
  if outer.any fun limit => limit.nanoseconds ≤ finish then some <$> part
  else
    set { m with limit := some ⟨finish⟩ }
    let ended ← ExceptT.lift part.run
    modify fun m => { m with limit := outer }
    match ended with
    | .ok outcome => pure (some outcome)
    | .error .late => do
      modify fun m => { m with
        elapsed := finish, printed := m.printed.filter fun chunk => chunk.time ≤ finish }
      pure none
    | .error halt => throw halt

/-- Runs a program for a limited time. -/
def timeout : Utility := fun start =>
  withStyle { inFront := true, misused := 125 }
    [taking 's' ["signal"], taking 'k' ["kill-after"], letter 'v' ["verbose"],
     { name := "foreground", words := ["foreground"] },
     { name := "preserve", words := ["preserve-status"] }]
    fun g => do
      match g.operands with
      | [] | [_] => do
        Running.put 2 ((← hint) ++ "\n")
        pure 125
      | time :: program :: args =>
        match interval? time with
        | none => misuse ("invalid time interval " ++ quoted time) 125
        | some time => do
          let ended ← if time = 0 then some <$> start (program :: args)
            else within? time (start (program :: args))
          match ended with
          | some (.ok status) => pure status
          | some (.error fault) =>
            fail ("failed to run command " ++ quoted program ++ ": " ++ fault.reason)
              (startOutcome fault)
          | none =>
            let signal := ((g.last? "s").bind Shell.Signal.number?).getD 15
            if signal = 9 then throw (.killed (← Running.shell).process 9)
            else pure (if g.has "preserve" then Shell.Signal.outcome signal else 124)

/-! ## Words -/

/-- Where a reader of words stands: in quotes, or right behind a backslash. -/
inductive Quoting
  | plain
  | quotes (mark : Char)
  | escaped
  deriving DecidableEq, Repr

/-- A word that is given backwards. -/
def turned (word? : Option (List Char)) : List String :=
  (word?.map fun cs => String.ofList cs.reverse).toList

/-- The words of a text, in which quotes and backslashes keep blanks together; the current word is
given backwards, if one has begun. -/
def quotedWords (place : Quoting) (current? : Option (List Char)) : List Char → List String
  | [] => turned current?
  | c :: rest =>
    let more := some (c :: current?.getD [])
    match place with
    | .escaped => quotedWords .plain more rest
    | .quotes mark =>
      if c == mark then quotedWords .plain current? rest else quotedWords place more rest
    | .plain =>
      if c == '\\' then quotedWords .escaped current? rest
      else if c == '\'' || c == '"' then quotedWords (.quotes c) (some (current?.getD [])) rest
      else if c == ' ' || c == '\t' || c == '\n' then
        turned current? ++ quotedWords .plain none rest
      else quotedWords .plain more rest

/-- The quote that is still open at the end of a text or of one of its lines. -/
def openQuote? : (mark? : Option Char) → List Char → Option Char
  | mark?, [] => mark?
  | some mark, c :: rest =>
    if c == mark then openQuote? none rest
    else if c == '\n' then some mark
    else openQuote? (some mark) rest
  | none, '\\' :: _ :: rest => openQuote? none rest
  | none, c :: rest => openQuote? (if c == '\'' || c == '"' then some c else none) rest

/-- A list cut into parts of so many elements; the bound is that of their number. -/
def partsOf (size : Nat) : (bound : Nat) → List String → List (List String)
  | 0, _ => []
  | bound + 1, words =>
    if words.isEmpty then []
    else words.take size :: partsOf size bound (words.drop size)

/-- The commands that are run for words. -/
def commandsFor (g : Given) (command : List String) (text : String) : List (List String) :=
  match g.last? "I" with
  | some mark =>
    let lines := ((linesOf text).1.map fun line =>
      String.ofList (line.toList.dropWhile fun c => c == ' ' || c == '\t')).filter (· ≠ "")
    lines.map fun line => command.map fun word => Text.replaceAll word mark line
  | none =>
    let words := match g.last? "d" with
      | some mark =>
        let (mark, _) := Shell.unescape formatRules mark
        let parts := text.splitOn mark
        if parts.getLast? = some "" then parts.dropLast else parts
      | none =>
        if g.has "0" then (text.splitOn "\x00").filter (· ≠ "")
        else quotedWords .plain none text.toList
    let size? := match (g.last? "n").bind String.toNat? with
      | some n => some n
      | none => none
    let groups := match size?, (g.last? "L").bind String.toNat? with
      | some n, _ => partsOf (max 1 n) words.length words
      | none, some n =>
        let lines := (linesOf text).1.filter (· ≠ "")
        (partsOf (max 1 n) lines.length lines).map fun (part : List String) =>
          part.flatMap fun (line : String) => quotedWords .plain none line.toList
      | none, none => if words.isEmpty then [] else [words]
    if groups.isEmpty then if g.has "r" then [] else [command]
    else groups.map (command ++ ·)

/-- Runs a program with words that are read. -/
def xargs : Utility := fun start =>
  withStyle { inFront := true }
    [taking 'n' ["max-args"], taking 'I', taking 'd' ["delimiter"], taking 'L' ["max-lines"],
     taking 'P' ["max-procs"], taking 's' ["max-chars"], letter '0' ["null"],
     letter 'r' ["no-run-if-empty"], letter 't' ["verbose"], letter 'x', taking 'a' ["arg-file"]]
    fun g => do
      let command := if g.operands.isEmpty then ["echo"] else g.operands
      let text ← match g.last? "a" with
        | some path => do
          match ← textOf path with
          | .ok text => pure text
          | .error _ => pure ""
        | none => Running.readAll 0
      modify fun m => m.opened 0 .nothing
      if !(g.has "d" || g.has "0") then
        match openQuote? none text.toList with
        | some mark =>
          return (← fail ("unmatched " ++ (if mark = '"' then "double" else "single")
            ++ " quote; by default quotes are special to xargs unless you use the -0 option"))
        | none => pure ()
      let mut outcome := 0
      for words in commandsFor g command text do
        if g.has "t" then Running.put 2 (" ".intercalate words ++ "\n")
        match ← start words with
        | .ok status =>
          if status = 255 then
            warn ((words.head?.getD "") ++ ": exited with status 255; aborting")
            return 124
          else if 126 ≤ status then return status
          else if status ≠ 0 then outcome := 123
        | .error fault =>
          return (← fail ((words.head?.getD "") ++ ": " ++ fault.reason) (startOutcome fault))
      pure outcome

/-- Runs a program as it is. -/
def plainly (rules : List OptionRule) : Utility := fun start =>
  withStyle { inFront := true, misused := 125 } rules fun g => do
    match g.operands with
    | [] => pure 0
    | program :: args => do
      match ← start (program :: args) with
      | .ok status => pure status
      | .error fault =>
        fail ("failed to run command " ++ quoted program ++ ": " ++ fault.reason)
          (startOutcome fault)

/-- Runs a program with another priority, which does not matter. -/
def nice : Utility := plainly [taking 'n' ["adjustment"]]

/-- Runs a program that goes on when its terminal is gone; there is none. -/
def nohup : Utility := plainly []

/-- Runs a program whose output is not kept back, as is no output here. -/
def stdbuf : Utility := plainly [taking 'i' ["input"], taking 'o' ["output"], taking 'e' ["error"]]

/-- Runs a program in a session of its own. -/
def setsid : Utility := plainly [letter 'w' ["wait"], letter 'f' ["fork"], letter 'c']

end SignatureAudit.Emulation.Utility
