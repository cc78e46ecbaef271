import SignatureAudit.Diagnosis.Pattern
import SignatureAudit.Duration
import SignatureAudit.Text.Lines
import SignatureAudit.Text.Search

/-!
# What the build tool has to say

`diagnose` reads the output of one run of the build tool. Anything on standard error is a crash.
Otherwise the lines of standard output are read in order: the first located error, or the first
warning where warnings count as errors, decides. Short of those, a line that misses the call of
`project` counts, and failing that an error line in an unknown form. Lines with the mark of the
sentinel are never read.
-/

namespace SignatureAudit

/-- What one run of the build tool says about the probed lines. -/
inductive Diagnosis
  | clean
  /-- An error at a line of the build file, counted from one. -/
  | error (line : Nat) (message : String)
  /-- A warning that counts as an error. -/
  | warning (message : String)
  /-- The file does not start with a call of `project`. -/
  | missingProject
  | crash
  /-- An error line in an unknown form. -/
  | drift (line : String)
  /-- The tool did not finish within the limit. -/
  | timeout (limit : Duration)
  deriving DecidableEq, Repr

namespace Diagnosis

/-- The kinds of diagnoses. -/
inductive Kind
  | clean
  | error
  | warning
  | missingProject
  | crash
  | drift
  | timeout
  deriving DecidableEq, Repr

/-- The kind of a diagnosis. -/
def kind : Diagnosis → Kind
  | .clean => .clean
  | .error .. => .error
  | .warning _ => .warning
  | .missingProject => .missingProject
  | .crash => .crash
  | .drift _ => .drift
  | .timeout _ => .timeout

/-- Marks output that is never a diagnosis. -/
def ignoreMark : String := "$IGNORE$"

/-- What the tool says about a file without a call of `project`. -/
def missingProjectText : String := "First statement must be a call to project"

/-- The message of a diagnosis. -/
def message : Diagnosis → String
  | .clean => ""
  | .error _ message => message
  | .warning message => message
  | .missingProject => missingProjectText
  | .crash => "Meson has crashed"
  | .drift line => line
  | .timeout limit => "Meson did not finish within " ++ limit.text

/-- The line that a diagnosis points at, counted from one, in a file that had `before` lines before
the probed ones. A diagnosis that knows no line points at the first probed one. -/
def line? (before : Nat) : Diagnosis → Option Nat
  | .clean | .drift _ => none
  | .error line _ => some line
  | .warning _ | .missingProject | .crash | .timeout _ => some (before + 1)

/-- The error that a located error line reports, if its line number fits in 64 bits. -/
def locatedError? (line : String) : Option Diagnosis := do
  let (number, message) ← located? line.toList
  let n ← Text.digits64? number
  some (.error n (Text.trim (String.ofList message)))

/-- The message of a warning line. -/
def warningText (line : String) : String :=
  match Text.cut? "WARNING:" line with
  | some (_, rest) => Text.trim rest
  | none => Text.trim line

/-- The diagnosis from what was found before and the remaining lines; `strict` makes warnings count
as errors. -/
def ofLines (strict : Bool) (found : Diagnosis) : List String → Diagnosis
  | [] => found
  | line :: rest =>
    if Text.contains line ignoreMark then ofLines strict found rest
    else if Text.contains line "ERROR" && Text.contains line missingProjectText then
      ofLines strict .missingProject rest
    else
      match locatedError? line with
      | some found => found
      | none =>
        if strict && Text.contains line "WARNING" then .warning (warningText line)
        else if Text.contains line "ERROR" && found = .clean then
          ofLines strict (.drift (Text.trim line)) rest
        else ofLines strict found rest

/-- The diagnosis of the output of one run. -/
def diagnose (stdout stderr : String) (strict : Bool) : Diagnosis :=
  if stderr = "" then
    ofLines strict .clean ((Text.physicalLines stdout).map Text.withoutLineEnd)
  else .crash

end Diagnosis

end SignatureAudit
