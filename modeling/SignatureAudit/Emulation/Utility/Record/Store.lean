import SignatureAudit.Emulation.Shell.Inner
import SignatureAudit.Emulation.Utility.Basic
import SignatureAudit.Emulation.Utility.Record.Script
import SignatureAudit.Emulation.Utility.Record.Value

/-!
# What a script for records works on

A store has values of names, arrays, the current record with its fields, and the inputs and outputs
that are open. The first fields make the record and the record makes the fields: whichever changes,
the other follows.
-/

namespace SignatureAudit.Emulation.Utility.Record

open Shell (Running Machine Starting)

/-- What a name stands for in a function. -/
inductive Local
  | value (value : Cell)
  /-- An array, by the name under which it is kept. -/
  | array (key : String)
  deriving Inhabited

/-- What a script works on. -/
structure Store where
  values : List (String × Cell) := []
  arrays : List (String × List (String × Cell)) := []
  /-- What the names of the current function stand for. -/
  locals : List (String × Local) := []
  /-- The number of arrays that functions have made. -/
  made : Nat := 0
  record : String := ""
  fields : Array String := #[]
  /-- The fields that have been given a value, by their numbers. -/
  given : List (Nat × Cell) := []
  /-- The operands that have not been read. -/
  operands : List String := []
  /-- What is left of the current input, if one is open. -/
  input? : Option (List Char) := none
  /-- Whether an input has been opened. -/
  opened : Bool := false
  /-- What is left of files and outputs of commands that are read. -/
  sources : List (String × List Char) := []
  /-- The files that are written. -/
  files : List String := []
  /-- What commands will read, the first one first. -/
  pipes : List (String × Array String) := []
  /-- The ranges that have begun, by the numbers of their rules. -/
  ranges : List Nat := []
  seed : Nat := 0
  status : Nat := 0

/-- Why statements are left early. -/
inductive Leap
  | next
  | nextFile
  | exit
  | give (value : Cell)
  | leave
  | goOn
  /-- A message tells why the script cannot go on. -/
  | failed (message : String)

/-- Work of a script. -/
abbrev Work := ExceptT Leap (StateT Store Running)

namespace Work

/-- Something that the machine does. -/
def lift {α : Type} (part : Running α) : Work α := ExceptT.lift (StateT.lift part)

/-- Ends the script with a message. -/
def fail {α : Type} (message : String) : Work α := throw (.failed message)

/-! ## Names -/

/-- The value of a name that is no local one. -/
def global (name : String) : Work Cell := do
  return ((← get).values.lookup name).getD .unset

/-- A name with a value among others. -/
def put {α : Type} (name : String) (value : α) (entries : List (String × α)) :
    List (String × α) :=
  if entries.any (·.1 = name) then
    entries.map fun entry => if entry.1 = name then (name, value) else entry
  else (name, value) :: entries

/-- The format in which numbers become text. -/
def conversion : Work String := do
  return ((← get).values.lookup "CONVFMT").elim "%.6g" (Cell.toText "%.6g")

/-- The text of a name that is no local one. -/
def globalText (name : String) : Work String := do
  return (← global name).toText (← conversion)

/-- A value as text. -/
def asText (cell : Cell) : Work String := do return cell.toText (← conversion)

/-! ## The record -/

/-- What separates fields. -/
def separatorOf (text : String) : Work Separator := do
  match Separator.ofText text with
  | .ok s => pure s
  | .error fault =>
    fail ("regular expression compile failed (" ++ fault.message ++ ")\n" ++ text)

/-- Cuts the record into its fields. -/
def cutRecord (record : String) : Work Unit := do
  let separator ← separatorOf (← globalText "FS")
  let manyLines := (← globalText "RS") = ""
  let fields := (separator.split manyLines record).toArray
  modify fun s => { s with
    record, fields, given := [], values := put "NF" (.ofNat fields.size) s.values }

/-- Puts the record together from its fields. -/
def joinRecord : Work Unit := do
  let joint ← globalText "OFS"
  modify fun s => { s with
    record := joint.intercalate s.fields.toList
    values := put "NF" (.ofNat s.fields.size) s.values }

/-- The value of a field. -/
def field (index : Nat) : Work Cell := do
  let s ← get
  if index = 0 then pure (.ofInput s.record)
  else
    match s.given.lookup index with
    | some cell => pure cell
    | none => pure ((s.fields[index - 1]?).elim .unset .ofInput)

/-- Gives a value to a field. -/
def setField (index : Nat) (value : Cell) : Work Unit := do
  let text ← asText value
  if index = 0 then cutRecord text
  else
    modify fun s =>
      let missing := index - s.fields.size
      let fields := s.fields ++ Array.replicate missing ""
      { s with
        fields := fields.setIfInBounds (index - 1) text
        given := (index, value) :: s.given.filter (·.1 ≠ index) }
    joinRecord

/-- Gives another number of fields to the record. -/
def setFieldCount (count : Nat) : Work Unit := do
  modify fun s =>
    { s with
      fields := (s.fields ++ Array.replicate (count - s.fields.size) "").extract 0 count
      given := s.given.filter fun (n, _) => n ≤ count }
  joinRecord

/-- Gives a value to a name that is no local one. -/
def setGlobal (name : String) (value : Cell) : Work Unit := do
  if name = "NF" then setFieldCount (truncated value.toNumber).toNat
  else modify fun s => { s with values := put name value s.values }

/-- The value of a name. -/
def value (name : String) : Work Cell := do
  match (← get).locals.lookup name with
  | some (.value cell) => pure cell
  | some (.array key) =>
    if (← get).arrays.any (·.1 = key) then fail ("illegal reference to array " ++ name)
    else pure .unset
  | none => global name

/-- Gives a value to a name. -/
def setValue (name : String) (cell : Cell) : Work Unit := do
  let s ← get
  if s.locals.any (·.1 = name) then
    set { s with locals := put name (.value cell) s.locals }
  else setGlobal name cell

/-! ## Arrays -/

/-- The name under which an array is kept. -/
def arrayKey (name : String) : Work String := do
  let s ← get
  match s.locals.lookup name with
  | none => pure name
  | some (.array key) => pure key
  | some (.value _) =>
    let key := toString s.made ++ " " ++ name
    set { s with made := s.made + 1, locals := put name (.array key) s.locals }
    pure key

/-- The elements of an array. -/
def elements (key : String) : Work (List (String × Cell)) := do
  return ((← get).arrays.lookup key).getD []

/-- Replaces the elements of an array. -/
def setElements (key : String) (entries : List (String × Cell)) : Work Unit :=
  modify fun s => { s with arrays := put key entries s.arrays }

/-- The value of an element, which is there from now on. -/
def element (key index : String) : Work Cell := do
  let entries ← elements key
  match entries.lookup index with
  | some cell => pure cell
  | none => do
    setElements key ((index, .unset) :: entries)
    pure .unset

/-- Gives a value to an element. -/
def setElement (key index : String) (cell : Cell) : Work Unit := do
  setElements key (put index cell (← elements key))

/-- A number that spreads texts. -/
def spread (text : String) : Nat :=
  text.toList.foldl (fun h c => ((h ^^^ c.toNat) * 16777619) % 4294967296) 2166136261

/-- The indices of an array in the order in which they are visited. -/
def visited (entries : List (String × Cell)) : List String :=
  (entries.map (·.1)).mergeSort fun a b => spread a % 64 ≤ spread b % 64

/-! ## Input -/

/-- What separates records. -/
def recordEnd : Work RecordEnd := do
  let text ← globalText "RS"
  match RecordEnd.ofText text with
  | .ok found => pure found
  | .error fault =>
    fail ("regular expression compile failed (" ++ fault.message ++ ")\n" ++ text)

/-- The text of a file. -/
def fileText (path : String) : Work String := do
  match ← lift (Utility.textOf path) with
  | .ok text => pure text
  | .error .isDirectory => fail "read error (Is a directory)"
  | .error fault => fail ("cannot open \"" ++ path ++ "\" (" ++ fault.reason ++ ")")

/-- The name and the value that an operand assigns. -/
def assignment? (operand : String) : Option (String × String) :=
  match operand.splitOn "=" with
  | name :: part :: parts =>
    if name.toList.head?.any (fun c => c.isAlpha || c == '_') && name.toList.all isNameChar then
      some (name, unescape ("=".intercalate (part :: parts)))
    else none
  | _ => none

/-- Opens the next input of some operands; tells whether there was one. -/
def openInput : List String → Work Bool
  | [] => do
    let s ← get
    if s.opened then
      set { s with operands := [], input? := none }
      pure false
    else
      let text ← fileText "-"
      modify fun s => { s with operands := [], opened := true, input? := some text.toList }
      pure true
  | operand :: rest => do
    match assignment? operand with
    | some (name, value) => do
      setGlobal name (.ofInput value)
      openInput rest
    | none =>
      if operand = "" then openInput rest
      else
        let text ← fileText operand
        setGlobal "FILENAME" (.text operand)
        setGlobal "FNR" (.number 0)
        modify fun s => { s with operands := rest, opened := true, input? := some text.toList }
        pure true

/-- Takes the next record of the input; the bound is the number of inputs that may be opened. -/
def nextRecord : (bound : Nat) → Work (Option String)
  | 0 => pure none
  | bound + 1 => do
    let s ← get
    match s.input? with
    | none => do
      if s.opened && s.operands.isEmpty then pure none
      else if ← openInput s.operands then nextRecord bound else pure none
    | some text => do
      match (← recordEnd).take? text with
      | some (record, rest) => do
        modify fun s => { s with input? := some rest }
        let count (name : String) : Work Unit := do
          setGlobal name (.number ((← global name).toNumber + 1))
        count "NR"
        count "FNR"
        pure (some record)
      | none => do
        modify fun s => { s with input? := none }
        nextRecord bound

/-- Takes the next record of the input. -/
def takeRecord : Work (Option String) := do nextRecord ((← get).operands.length + 2)

/-! ## Output -/

/-- Adds text to a file, which is emptied first unless text is only added to it. -/
def write (path : String) (appends : Bool) (text : String) : Work Unit := do
  if path = "/dev/stdout" || path = "-" then lift (Running.print text)
  else if path = "/dev/stderr" then lift (Running.put 2 text)
  else
    let m : Machine ← lift get
    match m.writable path with
    | .error fault =>
      fail ("cannot open \"" ++ path ++ "\" for output (" ++ fault.reason ++ ")")
    | .ok place =>
      let keeps := appends || (← get).files.contains path
      let old := match m.files.get? place with
        | some (.file bytes _) => if keeps then bytes else .empty
        | _ => .empty
      lift (set (m.fill place (old ++ rawBytes text.toList)))
      modify fun s => { s with files := path :: s.files.filter (· ≠ path) }

/-- Keeps text for a command. -/
def pipe (command text : String) : Work Unit :=
  modify fun s =>
    if s.pipes.any (·.1 = command) then
      { s with pipes := s.pipes.map fun (c, parts) =>
          (c, if c = command then parts.push text else parts) }
    else { s with pipes := s.pipes ++ [(command, #[text])] }

/-- Runs a command of the shell. -/
def command (start : Starting) (text : String) : Running Nat := do
  match ← start ["sh", "-c", text] with
  | .ok status => pure status
  | .error _ => pure 127

/-- Runs a command with what was kept for it. -/
def runPipe (start : Starting) (text : String) (parts : Array String) : Work Nat :=
  lift (Running.feeding (String.join parts.toList) (command start text))

/-- Closes a file or a command, and gives its outcome. -/
def close (start : Starting) (name : String) : Work Float := do
  let s ← get
  let known := s.files.contains name || s.sources.any (·.1 = name)
  set { s with
    files := s.files.filter (· ≠ name)
    sources := s.sources.filter (·.1 ≠ name)
    pipes := s.pipes.filter (·.1 ≠ name) }
  match s.pipes.lookup name with
  | some parts => return (← runPipe start name parts).toFloat
  | none => pure (if known then 0 else -1)

/-- Runs all commands for which text was kept. -/
def closeAll (start : Starting) : List (String × Array String) → Work Unit
  | [] => pure ()
  | (text, parts) :: rest => do
    let _ ← runPipe start text parts
    closeAll start rest

end Work

end SignatureAudit.Emulation.Utility.Record
