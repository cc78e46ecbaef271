import SignatureAudit.Audit.Run
import SignatureAudit.Catalog.Bundled
import SignatureAudit.Command.Answer
import SignatureAudit.Command.Listing
import SignatureAudit.Command.Request
import SignatureAudit.Settings.Document
import SignatureAudit.Template.Bundled
import SignatureAudit.Text.Bytes

/-!
# Running a command

A command first loads what it needs: the settings from a file, the environment and its arguments,
then the catalog and the templates. What it does with them is a function of them, of the fixtures
and of the tool: it lists signatures, or it generates a project and audits the selected ones.
-/

namespace SignatureAudit.Command

/-- What a command can see of the machine that it runs on. -/
structure Host (m : Type → Type) where
  /-- The values of names in the environment. -/
  environment : String → Option String
  /-- The file or directory at a path. -/
  node : String → m (Except FileFault FileNode)
  /-- The build tool that a program is, with a limit for the time of each run. -/
  tool : String → Option Duration → m Tool
  /-- What tools see around the generated project. -/
  outside : FileNode := .host
  /-- Where generated projects are, as an absolute path. -/
  location : String
  /-- Names that are drawn for generated lines. -/
  names : NameSupply

/-- The program with its version. -/
def versionText : String := "meson-sigcheck 0.1.1"

/-- How the command is used. -/
def usageText : List String :=
  ["Check a catalog of Meson function and method signatures against a real meson", "",
   "Usage: meson-sigcheck [OPTIONS] [NAMES]...", "", "Options:"]
    ++ items.map fun (name, item) => "  --" ++ name ++
      match item with
      | .choice _ => " <VALUE>"
      | _ => ""

/-- The text of what was found at a path, if it is one. -/
def textOf? : Except FileFault FileNode → Option String
  | .ok (.file bytes _) => String.fromUTF8? bytes
  | .ok (.directory _) | .error _ => none

section Loading

variable {m : Type → Type} [Monad m]

/-- Loads the settings. -/
def loadSettings (host : Host m) (r : Request) : ExceptT Fault m Settings := do
  let base ← match r.value? .config with
    | none => pure {}
    | some path =>
      match textOf? (← host.node path) with
      | none => throw (.unreadableSettings path)
      | some text =>
        match Settings.read? text with
        | none => throw (.invalidSettings path)
        | some settings => pure settings
  match base.withEnvironment host.environment with
  | (_, some fault) => throw (.environment fault)
  | (settings, none) =>
    let settings := r.laidOver settings
    match settings.problem? with
    | some problem => throw (.settings problem)
    | none => pure settings

/-- Loads the catalog. -/
def loadCatalog (host : Host m) (settings : Settings) : ExceptT Fault m Catalog := do
  match settings.catalog with
  | none =>
    match Catalog.bundled with
    | .ok catalog => pure catalog
    | .error _ => throw .bundledCatalog
  | some path =>
    match (textOf? (← host.node path)).map Catalog.load with
    | some (.ok catalog) => pure catalog
    | _ => throw (.catalog path)

/-- Loads the templates. -/
def loadTemplates (host : Host m) (settings : Settings) : ExceptT Fault m Templates := do
  match settings.templates with
  | none =>
    match Template.bundled with
    | .ok templates => pure templates
    | .error _ => throw .bundledTemplates
  | some path =>
    match (textOf? (← host.node path)).map Template.load with
    | some (.ok templates) => pure templates
    | _ => throw (.templates path)

end Loading

/-- What is printed when no function and no type has one of the names. -/
def noneFound (names : List String) : String :=
  "No function or type found for the given name(s): '" ++ ", ".intercalate names ++ "'"

/-- What is printed when the tool does not set a project up. -/
def setupReport (console : Console) (message stdout : String) : String :=
  console.print (.notice message)
    ++ if stdout = "" then "" else Console.printed ["Something went wrong:\n" ++ stdout]

/-- Generates a project and audits types and functions. An empty line stands between the first line
of the build file and what is probed. -/
def audit (a : Audit) (settings : Settings) (summarize : Bool) (tool : Tool)
    (fixtures : Except FileFault FileNode) (outside : FileNode) (location : String)
    (names : NameSupply) (types : List TypeInfo) (functions : List Callable) : Answer :=
  let console : Console := { verbose := settings.verbose }
  let isDirectory (_ : String) : Bool := fixtures.toOption.any FileNode.isDirectory
  match Session.create tool (fun _ => fixtures) location (settings.projectSettings isDirectory)
      outside with
  | (.error (.configuration message stdout), _) =>
    { printed := setupReport console message stdout, ending := .failed .setup }
  | (.error _, _) => { ending := .failed .setup }
  | (.ok (), session) =>
    match (Session.appendLines [""]).run.run session with
    | (.error fault, _) => { ending := .failed (.audit fault) }
    | (.ok (), session) =>
      match a.run tool names types functions session with
      | (.error fault, verdicts) =>
        { printed := verdicts.printed console, ending := .failed (.audit fault) }
      | (.ok (), verdicts) =>
        { printed := verdicts.printed console
            ++ if summarize then Console.printed [verdicts.tally.summary] else "" }

section Running

variable {m : Type → Type} [Monad m]

/-- Does what the arguments ask for. -/
def perform (host : Host m) (r : Request) : ExceptT Fault m Answer := do
  let settings ← loadSettings host r
  let catalog ← loadCatalog host settings
  let templates ← loadTemplates host settings
  let (types, functions) := catalog.select r.names
  if !r.names.isEmpty && types.isEmpty && functions.isEmpty then
    pure { printed := Console.printed [noneFound r.names] }
  else if r.has .list then
    pure { printed := Console.printed (listing types functions) }
  else
    let fixtures ← match settings.project.fixtures with
      | some path => host.node path
      | none => pure (.error .missing)
    let tool ← host.tool settings.tool settings.timeout
    let a : Audit := ⟨catalog, { templates with directory := some host.location },
      r.options settings⟩
    pure (audit a settings (r.has .summarize) tool fixtures host.outside host.location host.names
      types functions)

/-- Runs the command with some arguments. -/
def run (host : Host m) (args : List String) : m Answer := do
  match Request.read args with
  | .error .misused => pure { ending := .misused }
  | .error .version => pure { printed := Console.printed [versionText] }
  | .error .help => pure { printed := Console.printed usageText }
  | .ok r =>
    match ← (perform host r).run with
    | .ok answer => pure answer
    | .error fault => pure { ending := .failed fault }

end Running

end SignatureAudit.Command
