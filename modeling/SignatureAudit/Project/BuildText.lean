import SignatureAudit.Project.Fault
import SignatureAudit.Template.Expansion
import SignatureAudit.Text.Lines

/-!
# The text of the build file

Lines are added at the end of the text and taken away by their number or from the end. A line is
written with the project directory in the place of its marker and with `\n` for each newline in it,
so that it stays one physical line.
-/

namespace SignatureAudit.Project.BuildText

/-- A line as it is written to the build file of a project at the given location. -/
def escape (location line : String) : String :=
  Text.replaceAll (Template.placeDirectory location line) "\n" "\\n"

/-- Adds lines at the end. -/
def append (location text : String) (lines : List String) : String :=
  text ++ String.join (lines.map fun line => escape location line ++ "\n")

/-- The number of lines. -/
def lineCount (text : String) : Nat := (Text.physicalLines text).length

/-- The line of the given number, counted from zero, without its newline. -/
def line (text : String) (index : Nat) : Except Fault String :=
  let lines := Text.physicalLines text
  match lines[index]? with
  | some line => .ok (Text.withoutNewline line)
  | none => .error (.lineOutOfRange index lines.length)

/-- The text without the line of the given number. -/
def removeLine (text : String) (index : Nat) : Except Fault String :=
  let lines := Text.physicalLines text
  if index < lines.length then .ok (String.join (lines.eraseIdx index))
  else .error (.lineOutOfRange index lines.length)

/-- The text without its last `n` lines. -/
def popLines (text : String) (n : Nat) : Except Fault String :=
  let lines := Text.physicalLines text
  if n ≤ lines.length then .ok (String.join (lines.take (lines.length - n)))
  else .error (.popTooMany n lines.length)

end SignatureAudit.Project.BuildText
