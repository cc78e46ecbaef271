import SignatureAudit.Emulation.Utility.Edit.Run

/-!
# The program that edits lines

It reads a script from its arguments or from files, edits all inputs one behind the other or each by
itself, and prints the result or puts it in the place of the input.
-/

namespace SignatureAudit.Emulation.Utility

open Shell (Running Machine Utility)
open Shell.Running (print)

namespace Edit

/-- The options of the program. -/
def rules : List OptionRule :=
  [letter 'n' ["quiet", "silent"], taking 'e' ["expression"], taking 'f' ["file"],
   { name := "E", letters := ['E', 'r'], words := ["regexp-extended"] },
   { name := "i", letters := ['i'], words := ["in-place"], arity := .optional },
   letter 's' ["separate"], letter 'u' ["unbuffered"], letter 'z' ["null-data"],
   taking 'l' ["line-length"], { name := "posix", words := ["posix"] },
   { name := "debug", words := ["debug"] }, { name := "sandbox", words := ["sandbox"] }]

/-- The parts of the script that options give, or a message about a file that cannot be read. -/
def partsOf : (number : Nat) → List (String × String) → Running (Except String ScriptParts)
  | _, [] => pure (.ok [])
  | number, (name, value) :: rest => do
    if name = "e" then
      let about := "-e expression #" ++ toString number ++ ", char "
      return ((about, value) :: ·) <$> (← partsOf (number + 1) rest)
    else if name = "f" then
      match ← textOf value with
      | .error fault =>
        pure (.error ("couldn't open file " ++ value ++ ": " ++ fault.reason))
      | .ok text =>
        let text := if text.toList.getLast? == some '\n' then String.ofList text.toList.dropLast
          else text
        return (("file " ++ value ++ " line ", text) :: ·) <$> (← partsOf number rest)
    else partsOf number rest

/-- The lines of a text that comes from a file. -/
def inputLines (file text : String) : List InputLine :=
  let (lines, whole) := linesOf text
  if text = "" then []
  else
    let last := lines.length - 1
    lines.zipIdx.map fun (line, n) => ⟨line, whole || n < last, file⟩

/-- The files that a script writes to. -/
def writtenFiles (commands : List Command) : List String :=
  (commands.filterMap fun c =>
    match c.action with
    | .write path | .writeLine path => some path
    | .substitute s => s.file?
    | _ => none).filter fun path => path ≠ "/dev/stdout"

/-- The text of a file of the machine. -/
def fileText? (m : Machine) (path : String) : Option String :=
  match m.node path with
  | .ok (.file bytes _) => some (String.ofList (rawChars bytes))
  | _ => none

/-- Puts text into a file. -/
def putFile (path text : String) : Running Unit := do
  let m ← get
  match m.writable path with
  | .ok place => set (m.fill place (rawBytes text.toList))
  | .error fault => warn ("couldn't open file " ++ path ++ ": " ++ fault.reason)

/-- The outcome of an editor, which may not have come to an end. -/
def outcome (status? : Option Nat) : Running Nat :=
  match status? with
  | some status => pure status
  | none => throw .late

/-- Writes what an editor has collected for files. -/
def putFiles (e : Editor) : Running Unit := do
  for (path, collected) in e.files do
    if path = "/dev/stderr" then Running.put 2 collected.text
    else putFile path collected.text

/-- Reads inputs; gives the outcome, which tells whether all could be read. -/
def readInputs (paths : List String) : Running (List (String × String) × Nat) := do
  let mut texts : Array (String × String) := #[]
  let mut outcome := 0
  for path in paths do
    match ← textOf path with
    | .ok text => texts := texts.push (path, text)
    | .error .isDirectory =>
      warn ("couldn't edit " ++ path ++ ": not a regular file")
      outcome := 4
    | .error fault =>
      warn ("can't read " ++ path ++ ": " ++ fault.reason)
      outcome := max outcome 2
  pure (texts.toList, outcome)

/-- Edits files in their places. -/
def editInPlace (w : Workplace) (ending : String) (e : Editor) :
    List (String × String) → Running (Editor × Nat)
  | [] => pure (e, 0)
  | (path, text) :: rest => do
    let (e, status?) := Editor.edit w
      { e with ahead := inputLines path text, number := 0, output := {}, ranges := [] }
    let status ← outcome status?
    if ending ≠ "" then
      putFile (if ending.toList.contains '*' then Text.replaceAll ending "*" path
        else path ++ ending) text
    let left := String.join (e.ahead.map fun line =>
      if line.whole then line.text ++ "\n" else line.text)
    putFile path (e.output.add left).text
    if status ≠ 0 || !e.ahead.isEmpty then pure (e, status)
    else editInPlace w ending e rest

/-- Edits inputs by themselves and prints the results. -/
def editEach (w : Workplace) (e : Editor) : List (String × String) → Running (Editor × Nat)
  | [] => pure (e, 0)
  | (path, text) :: rest => do
    let (e, status?) := Editor.edit w { e with ahead := inputLines path text }
    let status ← outcome status?
    if status ≠ 0 || !e.ahead.isEmpty then pure (e, status) else editEach w e rest

/-- Edits inputs with a script. -/
def work (g : Given) (commands : List Command) (paths : List String) : Running Nat := do
  let m ← get
  let w : Workplace := { commands := commands.toArray, quiet := g.has "n", text? := fileText? m }
  let e : Editor := { files := (writtenFiles commands).eraseDups.map (·, {}) }
  match g.last? "i" with
  | some ending => do
    let (texts, outcome) ← readInputs paths
    let (e, status) ← editInPlace w ending e texts
    putFiles e
    pure (if status ≠ 0 then status else outcome)
  | none => do
    let mut lines : Array (String × String) := #[]
    let mut failed := 0
    for path in if paths.isEmpty then ["-"] else paths do
      match ← textOf path with
      | .ok text => lines := lines.push (path, text)
      | .error .isDirectory =>
        warn ("couldn't read " ++ path ++ ": Is a directory")
        failed := 2
      | .error fault =>
        warn ("can't read " ++ path ++ ": " ++ fault.reason)
        failed := 2
    let (e, status) ← if g.has "s" then editEach w e lines.toList
      else do
        let all := lines.toList.flatMap fun (path, text) => inputLines path text
        let (e, status?) := Editor.edit w { e with ahead := all }
        pure (e, ← outcome status?)
    print e.output.text
    putFiles e
    pure (if status ≠ 0 then status else failed)

end Edit

open Edit in
/-- Edits lines by a script. -/
def sed : Utility := fun _ args => do
  match readArguments rules false args with
  | .error message => do
    warn message
    pure 1
  | .ok g =>
    let scripted := g.has "e" || g.has "f"
    match scripted, g.operands with
    | false, [] => do
      Running.put 2 ("Usage: " ++ (← called)
        ++ " [OPTION]... \x7bscript-only-if-no-other-script\x7d [input-file]...\n\n")
      pure 1
    | _, operands =>
      let options := if scripted then g.options else [("e", operands.head?.getD "")]
      let paths := if scripted then operands else operands.drop 1
      match ← partsOf 1 options with
      | .error message => fail message 1
      | .ok parts =>
        let quiet := g.has "n" || (parts.head?.any fun (_, text) =>
          text = "#n" || (Text.dropFront? "#n\n" text).isSome)
        match readScript (g.has "E") parts with
        | .error message => fail message 1
        | .ok commands =>
          if g.has "i" && paths.isEmpty then fail "no input files" 1
          else work (if quiet then g.withOption "n" "" else g) commands paths

end SignatureAudit.Emulation.Utility
