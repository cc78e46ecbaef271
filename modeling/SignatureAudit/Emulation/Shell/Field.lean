import SignatureAudit.Emulation.Shell.Machine
import SignatureAudit.Emulation.Shell.Pattern

/-!
# Fields of commands

An expanded word is a list of pieces. What comes from a value that is not quoted falls apart at
separators; blanks among the separators count only between other text. A field with a pattern stands
for all paths that the pattern fits, or for itself if there are none.
-/

namespace SignatureAudit.Emulation.Shell

/-- A piece of an expanded word. -/
inductive Piece
  /-- A character, and whether it can be a separator. -/
  | char (char : Char) (quoted splits : Bool)
  /-- A field is here even if it is empty. -/
  | anchor
  /-- One field ends and another starts. -/
  | gap
  deriving DecidableEq, Repr

namespace Piece

/-- The pieces of a value. -/
def ofValue (quoted : Bool) (value : String) : List Piece :=
  value.toList.map (.char · quoted !quoted)

/-- The pieces of arguments that stay apart from each other. -/
def ofArguments (quoted : Bool) (arguments : List String) : List Piece :=
  let pieces := arguments.map fun argument =>
    if quoted then .anchor :: ofValue true argument else ofValue false argument
  (pieces.intersperse [.gap]).flatten

/-- The characters of pieces. -/
def letters (pieces : List Piece) : List Letter :=
  pieces.filterMap fun
    | .char c quoted _ => some (c, quoted)
    | _ => none

/-- The text of pieces. -/
def text (pieces : List Piece) : String := String.ofList ((letters pieces).map (·.1))

/-- What is not quoted can fall apart when it takes the place of a value. -/
def splitting (pieces : List Piece) : List Piece :=
  pieces.map fun
    | .char c false _ => .char c false true
    | piece => piece

end Piece

/-- Where the cutting of pieces into fields stands: the last characters and fields come first. -/
structure Cutting where
  fields : List (List Letter) := []
  current? : Option (List Letter) := none
  /-- Whether a separator that is no blank still belongs to the blanks behind the last field. -/
  absorbs : Bool := false

namespace Cutting

/-- The cutting behind the end of a field. -/
def ended (s : Cutting) (absorbs : Bool) : Cutting :=
  match s.current? with
  | some field => { fields := field.reverse :: s.fields, absorbs }
  | none => { s with absorbs := s.absorbs && absorbs }

/-- A blank, which only counts between other text. -/
def isBlank (c : Char) : Bool := c == ' ' || c == '\t' || c == '\n'

/-- The cutting behind a piece. -/
def next (separators : List Char) (s : Cutting) : Piece → Cutting
  | .anchor => { s with current? := some (s.current?.getD []) }
  | .gap => s.ended false
  | .char c quoted splits =>
    if splits && separators.contains c then
      if isBlank c then
        match s.current? with
        | some _ => s.ended true
        | none => s
      else if s.current?.isNone && !s.absorbs then { s with fields := [] :: s.fields }
      else s.ended false
    else { s with current? := some ((c, quoted) :: s.current?.getD []), absorbs := false }

/-- The fields that pieces make up. -/
def cut (separators : List Char) (pieces : List Piece) : List (List Letter) :=
  ((pieces.foldl (next separators) {}).ended false).fields.reverse

end Cutting

/-! ## Paths -/

/-- The parts of a path between its slashes. -/
def pathParts (letters : List Letter) : List (List Letter) :=
  letters.foldr (fun m parts =>
    if m.1 = '/' then [] :: parts
    else
      match parts with
      | part :: rest => (m :: part) :: rest
      | [] => [[m]]) [[]]

namespace Machine

/-- The names in a directory, in ascending order. -/
def names (m : Machine) (directory : String) : List String :=
  match m.node directory with
  | .ok (.directory entries) => (entries.map fun entry => raw entry.1).mergeSort
  | _ => []

/-- The names in a directory that a pattern fits. A dot in front has to be written. -/
def fitting (m : Machine) (directory : String) (pattern : Pattern) : List String :=
  let hidden := pattern.head? == some (.char '.')
  let names := m.names directory
  (if hidden then "." :: ".." :: names else names).filter fun name =>
    (hidden || name.toList.head? != some '.') && pattern.fits name.toList

/-- The paths that go on from a path with parts that are patterns. -/
def pathsFrom (m : Machine) (path : String) : List (List Letter) → List String
  | [] => [path]
  | part :: rest =>
    let slash := if rest.isEmpty then "" else "/"
    let pattern := Pattern.read part
    if pattern.isWild then
      (m.fitting (if path = "" then "." else path) pattern).flatMap fun name =>
        m.pathsFrom (path ++ name ++ slash) rest
    else m.pathsFrom (path ++ pattern.text ++ slash) rest

/-- The texts that a field stands for. -/
def expanded (m : Machine) (field : List Letter) : List String :=
  let text := String.ofList (field.map (·.1))
  if m.shell.has 'f' || !(Pattern.read field).isWild then [text]
  else
    match (m.pathsFrom "" (pathParts field)).filter fun path => (m.node? path).isSome with
    | [] => [text]
    | paths => paths.mergeSort

end Machine

end SignatureAudit.Emulation.Shell
