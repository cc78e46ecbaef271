import SignatureAudit.Audit.Coverage
import SignatureAudit.Settings.Basic
import SignatureAudit.Text.Digit
import SignatureAudit.Text.Search

/-!
# Command line arguments

Switches and options start with hyphens and may stand anywhere among the names; everything behind
`--` is a name. Each switch and each option is given at most once. A value follows its option, or
an equals sign behind it; a value of its own argument does not start with a hyphen, unless it is
nothing else.
-/

namespace SignatureAudit.Command

/-- Something that is off unless it is asked for. -/
inductive Switch
  /-- Pass each audited type to every callable that accepts it. -/
  | typeUsages
  /-- Pass each returned value to every callable that accepts it. -/
  | returnUsages
  /-- Report successes, and failures with all details. -/
  | verbose
  /-- Log less. -/
  | quiet
  /-- Take warnings of the tool for errors. -/
  | warnings
  /-- Describe calls by the name of the callable only. -/
  | nameOnly
  /-- Print the tally at the end. -/
  | summarize
  /-- List signatures instead of auditing them. -/
  | list
  deriving DecidableEq, Repr

/-- Something that has a value. -/
inductive Choice
  /-- The settings file. -/
  | config
  | catalog
  | templates
  | fixtures
  | maxCombinations
  /-- The program of the build tool. -/
  | tool
  /-- How many seconds one run of the tool may take. -/
  | timeout
  deriving DecidableEq, Repr

/-- What an argument with hyphens means. -/
inductive Item
  | switch (switch : Switch)
  | choice (choice : Choice)
  | version
  | help
  deriving DecidableEq, Repr

/-- Why arguments ask for no audit. -/
inductive Stop
  /-- They are against the rules. -/
  | misused
  /-- They ask for the version. -/
  | version
  /-- They ask how the command is used. -/
  | help
  deriving DecidableEq, Repr

/-- What the arguments ask for. -/
structure Request where
  names : List String := []
  switches : List Switch := []
  choices : List (Choice × String) := []
  deriving DecidableEq, Repr

/-- The items by name. -/
def items : List (String × Item) :=
  [("check-type-usages", .switch .typeUsages), ("check-returnval-usages", .switch .returnUsages),
   ("verbose", .switch .verbose), ("quiet", .switch .quiet), ("warnings", .switch .warnings),
   ("only-function-name", .switch .nameOnly), ("summarize", .switch .summarize),
   ("list", .switch .list), ("config", .choice .config), ("catalog", .choice .catalog),
   ("templates", .choice .templates), ("fixtures", .choice .fixtures),
   ("max-combinations", .choice .maxCombinations), ("meson", .choice .tool),
   ("timeout", .choice .timeout), ("version", .version), ("help", .help)]

/-- The items with names of one letter. -/
def letters : List (Char × Item) :=
  [('v', .switch .verbose), ('q', .switch .quiet), ('V', .version), ('h', .help)]

/-- Whether a text can be the value of an option: a number where one is wanted, and a path that is
not empty. -/
def Choice.admits : Choice → String → Bool
  | .maxCombinations, value | .timeout, value => (Text.readWord64? value).isSome
  | .tool, _ => true
  | .config, value | .catalog, value | .templates, value | .fixtures, value => value ≠ ""

/-- Whether an argument starts with a hyphen and is more than that. -/
def isHyphenated (arg : String) : Bool :=
  match arg.toList with
  | '-' :: _ :: _ => true
  | _ => false

namespace Request

/-- Whether a switch is on. -/
def has (r : Request) (s : Switch) : Bool := r.switches.contains s

/-- The value of an option. -/
def value? (r : Request) (c : Choice) : Option String := r.choices.lookup c

/-- The value of an option that is a number. -/
def number? (r : Request) (c : Choice) : Option Nat := (r.value? c).bind Text.readWord64?

/-- Adds an item that has no value. -/
def add (r : Request) : Item → Except Stop Request
  | .switch s => if r.has s then .error .misused else .ok { r with switches := r.switches ++ [s] }
  | .choice _ => .error .misused
  | .version => .error .version
  | .help => .error .help

/-- Adds an option with its value. -/
def give (r : Request) (c : Choice) (value : String) : Except Stop Request :=
  if (r.value? c).isSome || !c.admits value then .error .misused
  else .ok { r with choices := r.choices ++ [(c, value)] }

/-- Adds a run of one-letter names. -/
def addLetters (r : Request) : List Char → Except Stop Request
  | [] => .ok r
  | letter :: rest =>
    match letters.lookup letter with
    | none => .error .misused
    | some item => do
      let r ← r.add item
      r.addLetters rest

/-- Reads arguments that follow those already read. -/
def readFrom (r : Request) : List String → Except Stop Request
  | [] => .ok r
  | arg :: rest =>
    match Text.dropFront? "--" arg with
    | some "" => .ok { r with names := r.names ++ rest }
    | some long =>
      match Text.cut? "=" long with
      | some (name, value) =>
        match items.lookup name with
        | some (.choice c) => do
          let r ← r.give c value
          r.readFrom rest
        | _ => .error .misused
      | none =>
        match items.lookup long, rest with
        | some (.choice c), value :: rest =>
          if isHyphenated value then .error .misused
          else do
            let r ← r.give c value
            r.readFrom rest
        | some item, rest => do
          let r ← r.add item
          r.readFrom rest
        | none, _ => .error .misused
    | none =>
      if isHyphenated arg then do
        let r ← r.addLetters (arg.toList.drop 1)
        r.readFrom rest
      else readFrom { r with names := r.names ++ [arg] } rest

/-- What some arguments ask for. -/
def read (args : List String) : Except Stop Request := readFrom {} args

/-- Settings with those of the command line laid over them. -/
def laidOver (r : Request) (s : Settings) : Settings :=
  { tool := (r.value? .tool).getD s.tool
    project := { s.project with
      warningsAsErrors := s.project.warningsAsErrors || r.has .warnings
      fixtures := (r.value? .fixtures).or s.project.fixtures }
    verbose := s.verbose || r.has .verbose
    timeoutSeconds := (r.number? .timeout).or s.timeoutSeconds
    maxCombinations := (r.number? .maxCombinations).or s.maxCombinations
    catalog := (r.value? .catalog).or s.catalog
    templates := (r.value? .templates).or s.templates }

/-- What is audited, given the settings. -/
def options (r : Request) (s : Settings) : AuditOptions :=
  { typeUsages := r.has .typeUsages
    returnUsages := r.has .returnUsages
    nameOnly := r.has .nameOnly
    limit := s.maxCombinations }

end Request

end SignatureAudit.Command
