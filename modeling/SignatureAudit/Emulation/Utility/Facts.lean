import SignatureAudit.Emulation.Shell.Builtin.Control
import SignatureAudit.Emulation.Text.Magnitude
import SignatureAudit.Emulation.Utility.Place

/-!
# Facts about the machine

The programs that tell who uses the machine, what it is, where its programs are and what is known of
its files; and the one that cuts files to a size.
-/

namespace SignatureAudit.Emulation.Utility

open Shell (Running Machine Utility)
open Shell.Running (print printLine)

/-- Tells who uses the machine: its first user. -/
def id : Utility := fun _ =>
  withOptions [letter 'u' ["user"], letter 'g' ["group"], letter 'G' ["groups"],
    letter 'n' ["name"],
    letter 'r' ["real"]] fun g => do
      let asked := g.has "u" || g.has "g" || g.has "G"
      printLine (if !asked then "uid=0(root) gid=0(root) groups=0(root)"
        else if g.has "n" then "root" else "0")
      pure 0

/-- Tells the name of the user. -/
def whoami : Utility := fun _ =>
  withOptions [] fun g => do
    match g.operands with
    | [] => do
      printLine "root"
      pure 0
    | operand :: _ => misuse ("extra operand " ++ quoted operand)

/-- What the machine says of itself: letters of options with their answers. -/
def machineFacts : List (String × String) :=
  [("s", "Linux"), ("n", "localhost"), ("r", "6.0.0"), ("v", "#1"), ("m", "x86_64"),
   ("o", "GNU/Linux")]

/-- Tells what the machine is. -/
def uname : Utility := fun _ =>
  withOptions [letter 'a' ["all"], letter 's' ["kernel-name"], letter 'n' ["nodename"],
    letter 'r' ["kernel-release"], letter 'v' ["kernel-version"], letter 'm' ["machine"],
    { name := "m", letters := ['p', 'i'] }, letter 'o' ["operating-system"]] fun g => do
      let shown := machineFacts.filter fun (name, _) =>
        g.has "a" || g.has name || (g.options.isEmpty && name = "s")
      printLine (" ".intercalate (shown.map (·.2)))
      pure 0

/-- Tells that the input is no terminal. -/
def tty : Utility := fun _ =>
  withStyle { misused := 2 } [letter 's' ["silent", "quiet"]] fun g => do
    if !g.has "s" then printLine "not a tty"
    pure 1

/-- Tells where programs are. -/
def which : Utility := fun _ args => do
  let all := args.head? = some "-a"
  let names := if all then args.drop 1 else args
  let mut outcome := if names.isEmpty then 1 else 0
  for name in names do
    let m ← get
    let isProgram (path : String) : Bool := (m.node? path).any Shell.Builtin.isProgram
    let paths := if name.toList.contains '/' then [name]
      else (Shell.Builtin.searchPlaces m.shell).map (below · name)
    match paths.filter isProgram with
    | [] => outcome := 1
    | path :: others =>
      printLine path
      if all then printLines others
  pure outcome

/-! ## Files -/

/-- What stands for a letter in the format of facts about a file. -/
def fact (path : String) (node : FileNode) (letter : Char) : String :=
  let size := match node with
    | .file bytes _ => bytes.size
    | .directory _ => 4096
  let runnable := match node with
    | .file _ runnable => runnable
    | .directory _ => true
  match letter with
  | 'n' => path
  | 'N' => quoted path
  | 's' => toString size
  | 'F' => if node.isDirectory then "directory"
    else if size = 0 then "regular empty file" else "regular file"
  | 'a' => if runnable then "755" else "644"
  | 'A' => (if node.isDirectory then "d" else "-") ++ if runnable then "rwxr-xr-x" else "rw-r--r--"
  | 'U' | 'G' => "root"
  | 'u' | 'g' => "0"
  | 'h' => "1"
  | '%' => "%"
  | _ => "?"

/-- A format in which letters behind a sign stand for facts about a file. -/
def factText (path : String) (node : FileNode) : List Char → String
  | '%' :: letter :: rest => fact path node letter ++ factText path node rest
  | c :: rest => String.singleton c ++ factText path node rest
  | [] => ""

/-- Tells facts about files. -/
def stat : Utility := fun _ =>
  withOptions [taking 'c' ["format"], { name := "printf", words := ["printf"], arity := .required },
    letter 'L' ["dereference"], letter 'f' ["file-system"], letter 't' ["terse"]] fun g => do
      if g.operands.isEmpty then misuse "missing operand"
      else forAll g.operands fun path => do
        let m ← get
        match m.node path, g.last? "c" with
        | .ok node, some format => do
          printLine (factText path node format.toList)
          pure true
        | .ok node, none => do
          printLine ("  File: " ++ path ++ "\n  Size: " ++ fact path node 's')
          pure true
        | .error fault, _ =>
          refused ("cannot statx " ++ quoted path ++ ": " ++ fault.reason)

/-- The size that an argument asks for, given the present one. -/
def size? (text : String) (old : Nat) : Option Nat :=
  let digits (cs : List Char) : Option Nat := (String.ofList cs).toNat?
  match text.toList with
  | '+' :: rest => (digits rest).map (old + ·)
  | '-' :: rest => (digits rest).map (old - ·)
  | cs => digits cs

/-- Cuts files to a size, or fills them up to it. -/
def truncate : Utility := fun _ =>
  withOptions [taking 's' ["size"], letter 'c' ["no-create"]] fun g => do
    match g.last? "s", g.operands with
    | none, _ => misuse "you must specify either '--size' or '--reference'"
    | some _, [] => misuse "missing file operand"
    | some text, paths => forAll paths fun path => do
      let m ← get
      let old := match m.node path with
        | .ok (.file bytes _) => bytes
        | _ => .empty
      if g.has "c" && (m.node? path).isNone then pure true
      else
        match size? text old.size, m.writable path with
        | none, _ => refused ("Invalid number: " ++ quoted text)
        | some _, .error fault =>
          refused ("cannot open " ++ quoted path ++ " for writing: " ++ fault.reason)
        | some size, .ok place => do
          let filler : ByteArray := ⟨Array.replicate (size - old.size) 0⟩
          set (m.fill place (old.extract 0 size ++ filler))
          pure true

end SignatureAudit.Emulation.Utility
