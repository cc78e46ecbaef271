import SignatureAudit.Project.Session

/-!
# A tool that follows a table of rules

A rule table answers the setup run with a fixed reply and every probe by going through the lines of
the build file: a rule applies to the lines that contain its text, or once before the first line if
it has none, and may be kept for one probe. A rule adds output, may ask to stop, and ends the run
unless it says otherwise; so does the sentinel line. The table never changes the project.
-/

namespace SignatureAudit.Tool

/-- What a rule does, and where. -/
structure Rule where
  /-- The text that a line has to contain; without one the rule applies before the first line. -/
  trigger : Option String := none
  /-- The only probe that the rule applies to, counted from zero. -/
  probe : Option Nat := none
  stdout : String := ""
  stderr : String := ""
  /-- Whether the run goes on after the rule. -/
  goesOn : Bool := false
  interrupts : Bool := false
  fails : Option Failure := none
  deriving Repr

/-- Rules with the reply to the setup run and the output that every probe starts with. -/
structure RuleTable where
  setup : Except Failure Output := .ok {}
  banner : String := ""
  rules : List Rule := []

/-- What happens while a rule table goes through a build file. -/
inductive RuleEvent
  | rule (rule : Rule) (line : Nat)
  /-- The sentinel at a line, which ends the run. -/
  | sentinel (line : Nat)

/-- Output in which the line number stands in the place of its mark. -/
def atLine (text : String) (line : Nat) : String :=
  Text.replaceAll text "\x7bline\x7d" (toString line)

/-- What the tool prints at the sentinel. -/
def sentinelOutput (line : Nat) : String :=
  "../meson.build:" ++ toString line ++ ":0: ERROR: Problem encountered: "
    ++ "This error is produced to speed up checks and can be ignored (" ++ Diagnosis.ignoreMark
    ++ ")\n"

/-- The output of some events after what was printed before, whether the user asks to stop, and the
failure that ends the run, if one does. -/
def play (stdout stderr : String) (interrupts : Bool) :
    List RuleEvent → Bool × Except Failure Output
  | [] => (interrupts, .ok { stdout, stderr })
  | .sentinel line :: _ => (interrupts, .ok { stdout := stdout ++ sentinelOutput line, stderr })
  | .rule r line :: rest =>
    match r.fails with
    | some failure => (interrupts || r.interrupts, .error failure)
    | none =>
      let stdout := stdout ++ atLine r.stdout line
      let stderr := stderr ++ atLine r.stderr line
      if r.goesOn then play stdout stderr (interrupts || r.interrupts) rest
      else (interrupts || r.interrupts, .ok { stdout, stderr })

namespace RuleTable

/-- The rules that apply to a probe. -/
def rulesFor (t : RuleTable) (probe : Nat) : List Rule :=
  t.rules.filter fun r => r.probe.isNone || r.probe == some probe

/-- The events of one line. -/
def lineEvents (rules : List Rule) (text : String) (line : Nat) : List RuleEvent :=
  (rules.filter fun r => (r.trigger.map (Text.contains text)) == some true).map (.rule · line)
    ++ if (Text.dropFront? "error('This error is produced to speed up checks" text).isSome then
        [.sentinel line]
      else []

/-- The events of a build file. -/
def events (rules : List Rule) (text : String) : List RuleEvent :=
  (rules.filter (·.trigger.isNone)).map (.rule · 0)
    ++ ((Text.pieces "\n" text).zipIdx 1).flatMap fun (line, number) =>
      lineEvents rules line number

/-- The tool that follows the table. -/
def tool (t : RuleTable) : Tool := fun number call =>
  match number with
  | 0 => { result := t.setup, project := call.project }
  | probe + 1 =>
    match Session.textOf call.project with
    | .error fault => { result := .error (.io fault.message), project := call.project }
    | .ok text =>
      let (interrupts, result) := play t.banner "" false (events (t.rulesFor probe) text)
      { result, project := call.project, interrupts }

end RuleTable

end SignatureAudit.Tool
