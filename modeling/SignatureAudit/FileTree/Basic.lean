/-!
# File trees

A file tree holds files with their bytes and directories with their entries. A file may be a
program. A place in a tree is a list of names. Copying lays a tree over another: directories are
merged, files are replaced, and a file never takes the place of a directory nor a directory that of
a file. Copying stops at the first clash and leaves what was copied before it.
-/

namespace SignatureAudit

/-- A file or a directory. -/
inductive FileNode
  | file (bytes : ByteArray) (runnable : Bool)
  | directory (entries : List (String × FileNode))
  deriving Inhabited

namespace FileNode

/-- Whether the node is a directory. -/
def isDirectory : FileNode → Bool
  | .directory _ => true
  | .file .. => false

/-- The entries of a directory; a file has none. -/
def entries : FileNode → List (String × FileNode)
  | .directory entries => entries
  | .file .. => []

/-- The node at a path. -/
def get? : (path : List String) → FileNode → Option FileNode
  | [], node => some node
  | name :: rest, .directory entries => (entries.lookup name).bind (get? rest)
  | _ :: _, .file .. => none

/-- Puts a node under a name: in the place of what stands there, or behind all other entries. -/
def setEntry (name : String) (node : FileNode) :
    List (String × FileNode) → List (String × FileNode)
  | [] => [(name, node)]
  | (n, old) :: rest => if n = name then (n, node) :: rest else (n, old) :: setEntry name node rest

mutual

/-- Copies a node to a place where perhaps another stands; tells what stands there afterwards, if
anything, and whether all was copied. -/
def overlay : (source : FileNode) → (place : Option FileNode) → FileNode × Bool
  | .file .., some (.directory entries) => (.directory entries, false)
  | .file bytes runnable, _ => (.file bytes runnable, true)
  | .directory _, some (.file bytes runnable) => (.file bytes runnable, false)
  | .directory sources, some (.directory entries) =>
    let (merged, complete) := overlayEntries sources entries
    (.directory merged, complete)
  | .directory sources, none =>
    let (merged, complete) := overlayEntries sources []
    (.directory merged, complete)

/-- Copies entries into a directory, in their order, up to the first clash. -/
def overlayEntries : (sources entries : List (String × FileNode)) →
    List (String × FileNode) × Bool
  | [], entries => (entries, true)
  | (name, source) :: rest, entries =>
    let (copy, complete) := overlay source (entries.lookup name)
    let copied := setEntry name copy entries
    if complete then overlayEntries rest copied else (copied, false)

end

/-- Puts a node at a path of a tree, with the directories on the way made where they are missing. -/
def deposit (node : FileNode) : (path : List String) → (tree : FileNode) → FileNode
  | [], _ => node
  | name :: rest, tree =>
    .directory (setEntry name (deposit node rest ((tree.entries.lookup name).getD (.directory [])))
      tree.entries)

/-- Takes away the entry of a name. -/
def eraseEntry (name : String) (entries : List (String × FileNode)) : List (String × FileNode) :=
  entries.filter (·.1 ≠ name)

/-- Takes away the node at a path of a tree, if it is there. -/
def erase : (path : List String) → (tree : FileNode) → FileNode
  | [name], .directory entries => .directory (eraseEntry name entries)
  | name :: rest, .directory entries =>
    match entries.lookup name with
    | some child => .directory (setEntry name (erase rest child) entries)
    | none => .directory entries
  | _, tree => tree

mutual

/-- Every path of a tree below the given one, directories before their entries. -/
def listing (path : List String) : FileNode → List (List String × Option ByteArray)
  | .file bytes _ => [(path, some bytes)]
  | .directory entries => (path, none) :: listingEntries path entries

/-- Every path below the entries of a directory. -/
def listingEntries (path : List String) :
    List (String × FileNode) → List (List String × Option ByteArray)
  | [] => []
  | (name, node) :: rest => listing (path ++ [name]) node ++ listingEntries path rest

end

end FileNode

end SignatureAudit
