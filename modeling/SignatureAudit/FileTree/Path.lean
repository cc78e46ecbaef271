import SignatureAudit.FileTree.Basic
import SignatureAudit.FileTree.Fault
import SignatureAudit.Text.Search

/-!
# Paths as text

A path is written with slashes between names. A single dot leads nowhere else, two dots lead to the
directory above, which for the root is the root. Every name on the way has to be that of a
directory, also when dots follow it; a slash or a dot at the end asks for a directory, too.
`FilePath.find` answers the place that a path leads to, `FilePath.findWritable` the place of a file
that may not be there yet.
-/

namespace SignatureAudit

/-- A path: where it starts and the names on it, among them perhaps dots. -/
structure FilePath where
  absolute : Bool
  names : List String
  /-- Whether a slash ends it. -/
  slash : Bool
  deriving DecidableEq, Repr

namespace FilePath

/-- The number of bytes that a name can have. -/
def nameLimit : Nat := 255

/-- The number of bytes that a path stays below. -/
def lengthLimit : Nat := 4096

/-- The path that a text writes. -/
def ofText (text : String) : Except FileFault FilePath :=
  if text = "" then .error .missing
  else if text.toList.contains '\x00' then .error .nulCharacter
  else if lengthLimit ≤ text.utf8ByteSize then .error .nameTooLong
  else .ok {
    absolute := text.toList.head? == some '/'
    names := (Text.pieces "/" text).filter (· ≠ "")
    slash := text.toList.getLast? == some '/' }

/-- The place that names lead to from a place of a tree. -/
def walk (tree : FileNode) (here : List String) : List String → Except FileFault (List String)
  | [] => .ok here
  | name :: rest =>
    match tree.get? here with
    | none => .error .missing
    | some (.file ..) => .error .notDirectory
    | some (.directory entries) =>
      if name = "." then walk tree here rest
      else if name = ".." then walk tree here.dropLast rest
      else if nameLimit < name.utf8ByteSize then .error .nameTooLong
      else if (entries.lookup name).isSome then walk tree (here ++ [name]) rest
      else .error .missing

/-- The place at which a path starts. -/
def start (path : FilePath) (here : List String) : List String := if path.absolute then [] else here

/-- The place that a path leads to, at which something is. -/
def find (path : FilePath) (tree : FileNode) (here : List String) :
    Except FileFault (List String) := do
  let place ← walk tree (path.start here) path.names
  match tree.get? place with
  | none => .error .missing
  | some (.file ..) => if path.slash then .error .notDirectory else .ok place
  | some (.directory _) => .ok place

/-- The directory and the name of a path whose last name is no dot. -/
def split (path : FilePath) (tree : FileNode) (here : List String) :
    Except FileFault (Option (List String × String)) := do
  match path.names.getLast? with
  | none => .ok none
  | some name =>
    let parent ← walk tree (path.start here) path.names.dropLast
    match tree.get? parent with
    | none => .error .missing
    | some (.file ..) => .error .notDirectory
    | some (.directory _) =>
      if name = "." || name = ".." then .ok none
      else if nameLimit < name.utf8ByteSize then .error .nameTooLong
      else .ok (some (parent, name))

/-- The place of a file to write to, which may not be there yet. -/
def findWritable (path : FilePath) (tree : FileNode) (here : List String) :
    Except FileFault (List String) := do
  match ← path.split tree here with
  | none => .error .isDirectory
  | some (parent, name) =>
    let place := parent ++ [name]
    match tree.get? place with
    | some (.directory _) => .error .isDirectory
    | _ => if path.slash then .error .isDirectory else .ok place

/-- The tree with a new directory. -/
def makeDirectory (path : FilePath) (tree : FileNode) (here : List String) :
    Except FileFault FileNode := do
  match ← path.split tree here with
  | none =>
    let _ ← walk tree (path.start here) path.names
    .error .present
  | some (parent, name) =>
    let place := parent ++ [name]
    if (tree.get? place).isSome then .error .present
    else .ok (FileNode.deposit (.directory []) place tree)

/-- Whether a path leads to a directory. -/
def isDirectory (path : FilePath) (tree : FileNode) (here : List String) : Bool :=
  match path.find tree here with
  | .ok place => ((tree.get? place).map FileNode.isDirectory).getD false
  | .error _ => false

/-- The names without the single dots at their end. -/
def trimDots (names : List String) : List String := (names.reverse.dropWhile (· = ".")).reverse

theorem trimDots_length_le (names : List String) : (trimDots names).length ≤ names.length := by
  have shorter := (List.dropWhile_sublist (l := names.reverse) (· = ".")).length_le
  simpa [trimDots] using shorter

/-- The path without its last name and without the dots before and behind that. -/
def parent (path : FilePath) : FilePath :=
  { path with names := trimDots (trimDots path.names).dropLast, slash := false }

theorem parent_length_lt {path : FilePath} (h : path.names ≠ []) :
    path.parent.names.length < path.names.length := by
  have inner := trimDots_length_le path.names
  have outer := trimDots_length_le (trimDots path.names).dropLast
  have := List.length_pos_iff.2 h
  simp only [parent, List.length_dropLast] at outer ⊢
  omega

/-- Makes the directory of a path and those above it where they are missing. The tree shows what was
made before a fault. -/
def makeDirectories (path : FilePath) (tree : FileNode) (here : List String) :
    FileNode × Except FileFault Unit :=
  match path.makeDirectory tree here with
  | .ok tree => (tree, .ok ())
  | .error .missing =>
    if names : path.names = [] then (tree, .error .missing)
    else
      have := parent_length_lt names
      match path.parent.makeDirectories tree here with
      | (tree, .error fault) => (tree, .error fault)
      | (tree, .ok ()) =>
        match path.makeDirectory tree here with
        | .ok tree => (tree, .ok ())
        | .error fault => (tree, if path.isDirectory tree here then .ok () else .error fault)
  | .error fault => (tree, if path.isDirectory tree here then .ok () else .error fault)
termination_by path.names.length

end FilePath

namespace FileNode

/-- Whether a path starts at the root. -/
def isAbsolute (path : String) : Bool := path.toList.head? == some '/'

/-- A path relative to a directory, as text; an absolute path stands for itself. -/
def join (directory path : String) : String :=
  if isAbsolute path then path
  else if directory.toList.getLast? == some '/' then directory ++ path
  else directory ++ "/" ++ path

/-- What a path leads to from a directory of the tree. -/
def find (tree : FileNode) (here : List String) (path : String) : Except FileFault FileNode := do
  let place ← (← FilePath.ofText path).find tree here
  match tree.get? place with
  | some node => .ok node
  | none => .error .missing

/-- The node that a path leads to from a directory of the tree. -/
def find? (tree : FileNode) (here : List String) (path : String) : Option FileNode :=
  (tree.find here path).toOption

/-- The names of a path that are no dots. -/
def components (path : String) : List String :=
  (Text.pieces "/" path).filter fun name => name ≠ "" && name ≠ "."

/-- Copies a node to a path, seen from a directory of the tree. Missing directories on the way are
made for a directory and are a fault for a file. The tree shows what was copied before a fault. -/
def copyTo (source : FileNode) (path : FilePath) (tree : FileNode) (here : List String) :
    FileNode × Except FileFault Unit :=
  match source with
  | .file .. =>
    match path.findWritable tree here with
    | .ok place => (deposit source place tree, .ok ())
    | .error fault => (tree, .error fault)
  | .directory _ =>
    match path.makeDirectories tree here with
    | (tree, .error fault) => (tree, .error fault)
    | (tree, .ok ()) =>
      match path.find tree here with
      | .error fault => (tree, .error fault)
      | .ok place =>
        let (copy, complete) := overlay source (tree.get? place)
        (deposit copy place tree, if complete then .ok () else .error .isDirectory)

end FileNode

end SignatureAudit
