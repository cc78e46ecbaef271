import SignatureAudit.Emulation.Shell.Arithmetic
import SignatureAudit.Emulation.Shell.Field
import SignatureAudit.Emulation.Shell.Process

/-!
# Expanding words

A word of a command becomes any number of fields. In an assignment, in a redirection and in a
pattern a word stays whole. Expanding a word can give values to names and run scripts.
-/

namespace SignatureAudit.Emulation.Shell

open Running (shell refuse modifyShell)

/-- Where the home directory of the most powerful user is. -/
def rootHome : String := "/root"

namespace Word

/-- A word in which a tilde stands for a home directory: at the front, and in an assignment also
behind a colon. -/
def homed (home? : Option String) (colons starts : Bool) : Word → Word
  | .char '~' false :: rest =>
    let name := rest.takeWhile fun part =>
      match part with
      | .char c false => c != '/' && !(colons && c == ':')
      | _ => false
    let ends := match (rest.drop name.length).head? with
      | none => true
      | some (.char c false) => c == '/' || (colons && c == ':')
      | some _ => false
    let place? := match bare? name with
      | some "" => home?
      | some "root" => some rootHome
      | _ => none
    match place? with
    | some place =>
      if starts && ends then
        .quotes :: quoted place.toList ++ homed home? colons false (rest.drop name.length)
      else .char '~' false :: homed home? colons false rest
    | none => .char '~' false :: homed home? colons false rest
  | part :: rest =>
    let starts := match part with
      | .char ':' false => colons
      | _ => false
    part :: homed home? colons starts rest
  | [] => []
termination_by w => w.length
decreasing_by all_goals simp_all; try omega

end Word

/-- The value of a parameter; one that is not set may be a fault. -/
def parameterValue (name : String) : Running String := do
  let c ← shell
  match c.parameter? name with
  | some value => pure value
  | none => if c.has 'u' then refuse (name ++ ": parameter not set") else pure ""

/-- The pieces of a parameter, given its value. -/
def parameterPieces (c : Context) (splits quoted : Bool) (name value : String) : List Piece :=
  if name = "@" && splits then Piece.ofArguments quoted c.arguments
  else if name = "*" && splits && !quoted then Piece.ofArguments false c.arguments
  else Piece.ofValue quoted value

/-- Whether a parameter has a value that counts. -/
def Context.isPresent (c : Context) (name : String) (emptyCounts : Bool) : Bool :=
  if name = "@" || name = "*" then !c.arguments.isEmpty
  else
    match c.parameter? name with
    | some value => !(emptyCounts && value = "")
    | none => false

/-- Evaluates an arithmetic expression and gives names their values. -/
def calculate (text : String) : Running Int := do
  let c ← shell
  match Arithmetic.evaluate (fun name => (c.parameter? name).getD "") text with
  | .error fault => refuse (fault.message text)
  | .ok (value, assignments) =>
    for (name, value) in assignments.reverse do Running.assign name value
    pure value

/-- Text without the line ends at its end and without characters that no value has. -/
def substituted (text : String) : String :=
  let cs := text.toList.reverse.dropWhile (· == '\n')
  String.ofList (cs.filter (· ≠ '\x00')).reverse

mutual

/-- The pieces of a part of a word. In a word that does not fall apart the arguments are joined. -/
def expandPart (script : Scripting) (splits : Bool) : Part → Running (List Piece)
  | .char c quoted => pure [.char c quoted false]
  | .quotes => pure [.anchor]
  | .value name quoted => do
    let value ← parameterValue name
    pure (parameterPieces (← shell) splits quoted name value)
  | .length name quoted => do
    let value ← parameterValue name
    pure (Piece.ofValue quoted (toString value.length))
  | .alternative name absence emptyCounts word quoted => do
    let c ← shell
    let present := c.isPresent name emptyCounts
    let value := (c.parameter? name).getD ""
    match absence with
    | .present =>
      if present then Piece.splitting <$> expandParts script splits word else pure []
    | .other =>
      if present then pure (parameterPieces c splits quoted name value)
      else Piece.splitting <$> expandParts script splits word
    | .assign =>
      if present then pure (parameterPieces c splits quoted name value)
      else
        let text := Piece.text (← expandParts script false word)
        if !isName name.toList then refuse (name ++ ": bad variable name")
        else
          Running.assign name text
          pure (Piece.ofValue quoted text)
    | .refuse =>
      if present then pure (parameterPieces c splits quoted name value)
      else
        let text := Piece.text (← expandParts script false word)
        refuse (name ++ ": " ++
          if word.isEmpty then
            if emptyCounts then "parameter not set or null" else "parameter not set"
          else text)
  | .trimmed name atEnd longest word quoted => do
    let value ← parameterValue name
    let pattern := Pattern.read (Piece.letters (← expandParts script false word))
    pure (Piece.ofValue quoted (String.ofList (pattern.trim atEnd longest value.toList)))
  | .command text line quoted => do
    let (text, status) ← capture script (script text line)
    modifyShell fun c => { c with substituted? := some status }
    pure (Piece.ofValue quoted (substituted text))
  | .arithmetic word quoted => do
    let text := Piece.text (← expandParts script false word)
    pure (Piece.ofValue quoted (toString (← calculate text)))
  | .faulty => refuse "Bad substitution"

/-- The pieces of parts. -/
def expandParts (script : Scripting) (splits : Bool) : List Part → Running (List Piece)
  | [] => pure []
  | part :: rest => do
    let first ← expandPart script splits part
    let others ← expandParts script splits rest
    pure (first ++ others)

end

namespace Word

/-- A word in which tildes at the front have been replaced. -/
def atHome (w : Word) (colons : Bool) : Running Word := do
  pure (w.homed ((← shell).value? "HOME") colons true)

/-- The fields of a word. -/
def fields (script : Scripting) (w : Word) : Running (List String) := do
  let pieces ← expandParts script true (← w.atHome false)
  let m ← get
  pure ((Cutting.cut m.shell.separators pieces).flatMap m.expanded)

/-- The text of a word that stays whole. -/
def text (script : Scripting) (w : Word) (colons : Bool := false) : Running String := do
  pure (Piece.text (← expandParts script false (← w.atHome colons)))

/-- The text of a document. -/
def documentText (script : Scripting) (w : Word) : Running String := do
  pure (Piece.text (← expandParts script false w))

/-- The pattern that a word is. -/
def pattern (script : Scripting) (w : Word) : Running Pattern := do
  pure (Pattern.read (Piece.letters (← expandParts script false (← w.atHome false))))

end Word

end SignatureAudit.Emulation.Shell
