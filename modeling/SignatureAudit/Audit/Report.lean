import SignatureAudit.Audit.Probe
import SignatureAudit.Audit.Tally
import SignatureAudit.Project.Outcome
import SignatureAudit.Text.Blank

/-!
# Reports

Successes are reported only when the console is verbose; a failure is reported with what went wrong
and with the probed line at fault, if there is one, and a verbose console shows the probed lines and
the output of the tool as well. Notices are about the audit itself.
-/

namespace SignatureAudit

/-- How reports are printed. -/
structure Console where
  verbose : Bool := false
  color : Bool := false
  deriving DecidableEq, Repr

/-- Something to report. -/
inductive Report
  | success (description : String)
  | failure (description : String) (site : Site) (outcome : Outcome) (lines : List String)
  | notice (text : String)
  deriving Repr

namespace Report

/-- What went wrong, given the part of the probe that is at fault. -/
def complaint (site : Site) (o : Outcome) : String :=
  match o.kind, site with
  | .crash, _ => "meson crashed"
  | .timeout, _ => "timed out"
  | .warning, _ => "(WARNING) " ++ o.message
  | _, .setup => "setup failed: " ++ o.message
  | _, .call => o.message
  | _, .returnValue => "returned value misbehaves: " ++ o.message

/-- The probed line that an outcome points at. -/
def culprit? (o : Outcome) (lines : List String) : Option String :=
  match o.offset with
  | some (.ofNat n) => lines[n]?
  | _ => none

/-- A failure in one line. -/
def failureText (description : String) (site : Site) (o : Outcome) (lines : List String) : String :=
  description ++ ": " ++ complaint site o ++
    match culprit? o lines with
    | some line => " (at `" ++ line ++ "`)"
    | none => ""

end Report

namespace Console

/-- A tag in the given styles, each a number of the terminal's select-graphic-rendition codes. -/
def styled (c : Console) (styles : List String) (tag : String) : String :=
  if c.color then
    String.join (styles.map fun style => "\x1b[" ++ style ++ "m") ++ tag ++ "\x1b[0m"
  else tag

/-- A text without the blanks at its end. -/
def trimmedEnd (s : String) : String := String.ofList (Text.trimEnd s.toList)

/-- The lines that a failure adds on a verbose console. -/
def details (o : Outcome) (lines : List String) : List String :=
  ["######## PROBED LINES ########"] ++ lines
    ++ ["########## STDOUT ############", trimmedEnd o.stdout]
    ++ if o.stderr = "" then [] else ["########## STDERR ############", trimmedEnd o.stderr]

/-- The lines of a report. -/
def linesOf (c : Console) : Report → List String
  | .success description =>
    if c.verbose then [c.styled ["32"] "[ OK ]" ++ " " ++ description] else []
  | .failure description site o lines =>
    (c.styled ["31", "1"] "[FAIL]" ++ " " ++ Report.failureText description site o lines)
      :: if c.verbose then details o lines else []
  | .notice text => [c.styled ["33"] "INTERNAL" ++ ":: " ++ text]

/-- Lines as they are printed. -/
def printed (lines : List String) : String := String.join (lines.map (· ++ "\n"))

/-- A report as it is printed. -/
def print (c : Console) (r : Report) : String := printed (c.linesOf r)

end Console

end SignatureAudit
