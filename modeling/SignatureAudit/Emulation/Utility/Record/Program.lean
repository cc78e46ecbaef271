import SignatureAudit.Emulation.Utility.Output
import SignatureAudit.Emulation.Utility.Record.Run

/-!
# The program for records

It follows the rules of a script for each record of its input. What is done before the first record
and behind the last one belongs to rules of their own.
-/

namespace SignatureAudit.Emulation.Utility

open Shell (Running Machine Utility Starting)

namespace Record

open Work

/-! ## Statements -/

/-- Where a value is printed. -/
def put (inner : Inner) (outlet : Outlet) (text : String) : Work Unit := do
  match outlet with
  | .standard => lift (Running.print text)
  | .file path appends => do write (← asText (← eval inner path)) appends text
  | .command c => do pipe (← asText (← eval inner c)) text

/-- A value as it is printed. -/
def printedText (cell : Cell) : Work String := do
  return cell.toText ((← get).values.lookup "OFMT" |>.elim "%.6g" (Cell.toText "%.6g"))

/-- The number of rounds of a loop that are followed. -/
def rounds : Nat := 3000000

/-- Runs the body of a loop; tells whether the loop goes on. -/
def round (body : Work Unit) : Work Bool := do
  match ← ExceptT.lift body.run with
  | .ok () | .error .goOn => pure true
  | .error .leave => pure false
  | .error leap => throw leap

/-- Runs a body as long as a test holds. -/
def repeating (test : Work Bool) (body next : Work Unit) : (rounds : Nat) → Work Unit
  | 0 => lift (throw .late)
  | rounds + 1 => do
    if ← test then
      if ← round body then
        next
        repeating test body next rounds

/-- Runs a body for each of some values of a name. -/
def forEach (name : String) (body : Work Unit) : List String → Work Unit
  | [] => pure ()
  | index :: rest => do
    setValue name (.ofInput index)
    if ← round body then forEach name body rest

mutual

/-- Does what a statement says. -/
def exec (inner : Inner) : Statement → Work Unit
  | .value e => do
    let _ ← eval inner e
    pure ()
  | .print arguments outlet => do
    let texts ← match arguments with
      | [] => do pure [(← get).record]
      | arguments => do (← evalAll inner arguments).mapM printedText
    let line := (← globalText "OFS").intercalate texts ++ (← globalText "ORS")
    put inner outlet line
  | .format arguments outlet => do
    let (text, fault?) ← formatCells "printf" (← evalAll inner arguments)
    put inner outlet text
    match fault? with
    | none => pure ()
    | some message => Work.fail message
  | .block statements => execAll inner statements
  | .conditional test yes no? => do
    if (← eval inner test).isTrue then exec inner yes
    else
      match no? with
      | some no => exec inner no
      | none => pure ()
  | .loop test body =>
    repeating (do return (← eval inner test).isTrue) (exec inner body) (pure ()) rounds
  | .loopOnce body test => do
    if ← round (exec inner body) then
      repeating (do return (← eval inner test).isTrue) (exec inner body) (pure ()) rounds
  | .count first? test? next? body => do
    match first? with
    | some first => exec inner first
    | none => pure ()
    let test : Work Bool := match test? with
      | some test => do return (← eval inner test).isTrue
      | none => pure true
    let behind : Work Unit := match next? with
      | some s => exec inner s
      | none => pure ()
    repeating test (exec inner body) behind rounds
  | .each name array body => do
    let entries ← elements (← arrayKey array)
    forEach name (exec inner body) (visited entries)
  | .next => throw .next
  | .nextFile => throw .nextFile
  | .exit status? => do
    match status? with
    | some e => do
      let cell ← eval inner e
      modify fun s => { s with status := ((truncated cell.toNumber) % 256).toNat }
    | none => pure ()
    throw .exit
  | .give value? => do
    match value? with
    | some e => throw (.give (← eval inner e))
    | none => throw (.give .unset)
  | .leave => throw .leave
  | .goOn => throw .goOn
  | .delete array subscripts => do
    let key ← arrayKey array
    match subscripts with
    | [] => setElements key []
    | subscripts => do
      let index ← indexOf (← evalAll inner subscripts)
      setElements key ((← elements key).filter (·.1 ≠ index))

/-- Does what statements say, one after the other. -/
def execAll (inner : Inner) : List Statement → Work Unit
  | [] => pure ()
  | s :: rest => do
    exec inner s
    execAll inner rest

end

/-! ## Functions -/

/-- Parameters with what is passed for them; those that get nothing are unset. -/
def bound : List String → List Local → List (String × Local)
  | [], _ => []
  | name :: names, [] => (name, .value .unset) :: bound names []
  | name :: names, given :: rest => (name, given) :: bound names rest

/-- Runs a function, inside of which so many calls may be. -/
def callFunction (script : Script) (start : Starting) :
    (depth : Nat) → String → List Local → Work Cell
  | 0, _, _ => lift (throw (.exited 2))
  | depth + 1, name, arguments => do
    match script.functions.find? (·.name = name) with
    | none => Work.fail ("function " ++ name ++ " never defined")
    | some f => do
      let before := (← get).locals
      modify fun s => { s with locals := bound f.parameters arguments }
      let ended ← ExceptT.lift
        (exec ⟨script, start, callFunction script start depth⟩ f.body).run
      modify fun s => { s with locals := before }
      match ended with
      | .ok () => pure .unset
      | .error (.give cell) => pure cell
      | .error leap => throw leap

/-- The number of calls that can be inside each other. -/
def depth : Nat := 1000

/-! ## Rules -/

/-- Runs a rule, if it is about the record; a range is known by the number of its rule. -/
def runRule (inner : Inner) (number : Nat) (rule : Rule) : Work Unit := do
  let body : Work Unit := match rule.body? with
    | some body => exec inner body
    | none => exec inner (.print [] .standard)
  match rule.pattern with
  | .start | .finish => pure ()
  | .always => body
  | .test e => if (← eval inner e).isTrue then body
  | .range first last => do
    let begun := (← get).ranges.contains number
    let begins ← if begun then pure true else do pure (← eval inner first).isTrue
    if begins then
      let ends := (← eval inner last).isTrue
      modify fun s =>
        let others := s.ranges.filter (· ≠ number)
        { s with ranges := if ends then others else number :: others }
      body

/-- Runs all rules for a record. -/
def runRules (inner : Inner) : List (Rule × Nat) → Work Unit
  | [] => pure ()
  | (rule, number) :: rest => do
    runRule inner number rule
    runRules inner rest

/-- Runs all rules that are about the start, or about the end. -/
def runEdge (inner : Inner) (atStart : Bool) : List Rule → Work Unit
  | [] => pure ()
  | rule :: rest => do
    match rule.pattern, rule.body? with
    | .start, some body => if atStart then exec inner body
    | .finish, some body => if !atStart then exec inner body
    | _, _ => pure ()
    runEdge inner atStart rest

/-- Follows the rules record by record; the bound is that of their number. -/
def runRecords (inner : Inner) (rules : List (Rule × Nat)) : (bound : Nat) → Work Unit
  | 0 => lift (throw .late)
  | bound + 1 => do
    match ← takeRecord with
    | none => pure ()
    | some record => do
      cutRecord record
      match ← ExceptT.lift (runRules inner rules).run with
      | .ok () | .error .next => runRecords inner rules bound
      | .error .nextFile => do
        modify fun s => { s with input? := none }
        runRecords inner rules bound
      | .error leap => throw leap

/-- Whether a rule needs the input. -/
def Rule.reads (rule : Rule) : Bool :=
  match rule.pattern with
  | .start => false
  | _ => true

/-- The operands that are left when a script may have changed them. -/
def operandsOf (s : Store) : List String :=
  let entries := (s.arrays.lookup "ARGV").getD []
  let count := ((s.values.lookup "ARGC").map fun cell => (truncated cell.toNumber).toNat).getD 0
  (List.range count).drop 1 |>.filterMap fun n =>
    (entries.lookup (toString n)).map (Cell.toText "%.6g")

/-- Runs a script. -/
def runScript (inner : Inner) : Work Unit := do
  let rules := inner.script.rules
  let before : Work Unit := do
    runEdge inner true rules
    let s ← get
    if !s.opened then set { s with operands := operandsOf s }
    if rules.any Rule.reads then runRecords inner rules.zipIdx rounds
  match ← ExceptT.lift before.run with
  | .ok () | .error .exit | .error .next | .error .nextFile => do
    runEdge inner false rules
  | .error leap => throw leap

/-! ## The program -/

/-- The store at the start. -/
def firstStore (name : String) (environment : List (String × String)) (separator? : Option String)
    (operands : List String) : Store :=
  let arguments := name :: operands
  { values := [("NR", .number 0), ("FNR", .number 0), ("NF", .number 0),
      ("FS", .text (separator?.getD " ")),
      ("OFS", .text " "), ("ORS", .text "\n"), ("RS", .text "\n"), ("SUBSEP", .text "\x1c"),
      ("RSTART", .number 0), ("RLENGTH", .number (-1)), ("CONVFMT", .text "%.6g"),
      ("OFMT", .text "%.6g"), ("FILENAME", .text ""), ("ARGC", .ofNat arguments.length)]
    arrays := [("ENVIRON", environment.map fun (name, value) => (name, .ofInput value)),
      ("ARGV", (arguments.zipIdx).map fun (argument, n) => (toString n, .ofInput argument))]
    operands }

/-- Writes a message and gives the outcome of a script that cannot go on. -/
def broken (message : String) : Running Nat := Utility.fail message 2

/-- Runs a script with what was given to it. -/
def runWith (start : Starting) (script : Script) (assignments : List (String × String))
    (store : Store) : Running Nat := do
  let inner : Inner := ⟨script, start, callFunction script start depth⟩
  let work : Work Unit := do
    for (name, value) in assignments do setGlobal name (.ofInput value)
    runScript inner
  let (ended, store) ← work.run.run store
  let status ← match ended with
    | .error (.failed message) => broken message
    | _ => pure store.status
  let _ ← (closeAll start store.pipes).run.run store
  pure status

/-- The functions that a script calls and does not have. -/
def missing? (script : Script) (names : List String) : Option String :=
  names.find? fun name => !script.functions.any (·.name = name)

/-- The functions that are called in a text. -/
def calledFunctions (text : String) : List String :=
  match tokens text with
  | .error _ => []
  | .ok found => found.filterMap fun (t, _) =>
    match t with
    | .function name => some name
    | _ => none

end Record

open Record in
/-- Follows a script for each record of its input. -/
def awk : Utility := fun start args => do
  let g? := readArguments
    [taking 'F', taking 'v', taking 'f', taking 'W',
      { name := "version", words := ["version"] }] true
    args
  match g? with
  | .error message =>
    match message.toList.reverse with
    | _ :: letter :: _ =>
      if (Text.dropFront? "option requires" message).isSome then
        broken ("option -" ++ String.singleton letter ++ " lacks argument")
      else broken ("not an option: -" ++ String.singleton letter)
    | _ => broken message
  | .ok g => do
    let mut text := ""
    let mut operands := g.operands
    if g.has "f" then
      for path in g.all "f" do
        match ← textOf path with
        | .ok part => text := text ++ part ++ "\n"
        | .error fault =>
          return (← broken ("cannot open \"" ++ path ++ "\" (" ++ fault.reason ++ ")"))
    else
      match operands with
      | [] => return 0
      | first :: rest =>
        text := first
        operands := rest
    let wrong? := (g.all "v").find? fun word => (Record.Work.assignment? word).isNone
    match wrong?, Record.read text with
    | some word, _ => broken ("improper assignment: -v " ++ word)
    | none, .error fault =>
      if (Text.dropFront? "unexpected character" fault.message).isSome then
        broken (toString fault.line ++ ": " ++ fault.message)
      else broken ("line " ++ toString fault.line ++ ": " ++ fault.message)
    | none, .ok script =>
      match missing? script (calledFunctions text) with
      | some name =>
        broken ("line " ++ toString ((text.toList.filter (· == '\n')).length + 2) ++ ": function "
          ++ name ++ " never defined")
      | none => do
        let c ← Running.shell
        let separator? := (g.last? "F").map Record.unescape
        let store := firstStore c.name c.environment separator? operands
        runWith start script ((g.all "v").filterMap Record.Work.assignment?) store

end SignatureAudit.Emulation.Utility
