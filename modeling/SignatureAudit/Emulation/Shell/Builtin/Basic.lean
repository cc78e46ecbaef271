import SignatureAudit.Emulation.Shell.Condition
import SignatureAudit.Emulation.Shell.Format
import SignatureAudit.Emulation.Shell.Inner

/-!
# Simple commands of the shell

How commands read their options and numbers, and the commands that print, ask, or go to another
directory.
-/

namespace SignatureAudit.Emulation.Shell.Builtin

open Running (shell modifyShell refuse complainAs print printLine)

/-- Reads the letters of options in one argument: with a colon behind it, a letter takes the rest of
the argument or the next one. Answers the options and whether the next argument has been taken. -/
def letters (known : List Char) (next? : Option String) :
    List Char → Running (List (Char × String) × Bool)
  | [] => pure ([], false)
  | c :: rest => do
    match known.dropWhile (· ≠ c) with
    | [] => refuse ("Illegal option -" ++ String.singleton c)
    | _ :: ':' :: _ =>
      if rest.isEmpty then
        match next? with
        | some argument => pure ([(c, argument)], true)
        | none => refuse ("No arg for -" ++ String.singleton c ++ " option")
      else pure ([(c, String.ofList rest)], false)
    | _ => do
      let (more, taken) ← letters known next? rest
      pure ((c, "") :: more, taken)

/-- Reads the options in front of arguments. -/
def options (known : String) : List String → Running (List (Char × String) × List String)
  | [] => pure ([], [])
  | argument :: rest =>
    match argument.toList with
    | ['-', '-'] => pure ([], rest)
    | '-' :: c :: cs => do
      let (first, taken) ← letters known.toList rest.head? (c :: cs)
      match taken, rest with
      | true, _ :: rest => do
        let (more, left) ← options known rest
        pure (first ++ more, left)
      | _, rest => do
        let (more, left) ← options known rest
        pure (first ++ more, left)
    | _ => pure ([], argument :: rest)

/-- A number that an argument writes. -/
def number (argument : String) : Running Nat := do
  match argument.toNat? with
  | some n => if n ≤ 2147483647 then pure n else refuse ("Illegal number: " ++ argument)
  | none => refuse ("Illegal number: " ++ argument)

/-- Text in quotes, as it could be written in a script. -/
def quotedText (text : String) : String :=
  let pieces := ((text.toList.splitBy fun a b => (a == '\'') == (b == '\'')).map fun piece =>
    if piece.head? == some '\'' then "\"" ++ String.ofList piece ++ "\""
    else "'" ++ String.ofList piece ++ "'")
  (if text = "" || text.toList.head? == some '\'' then "''" else "") ++ String.join pieces

/-! ## Printing -/

/-- The rules of formats that the shell prints. -/
def rules : FormatRules := ⟨false⟩

/-- Prints its arguments. -/
def echo : Builtin := fun _ args => do
  let (silent, words) := match args with
    | "-n" :: words => (true, words)
    | words => (false, words)
  let (text, goesOn) := unescape rules (" ".intercalate words)
  print (text ++ if goesOn && !silent then "\n" else "")
  pure 0

/-- Prints arguments in a format. -/
def printf : Builtin := fun _ args => do
  let (_, args) ← options "" args
  match args with
  | [] => complainAs "usage: printf format [arg ...]" 2
  | format :: args =>
    let f := formatAll rules format.toList args
    for complaint in f.complaints do
      let _ ← complainAs complaint 1
    print f.text
    match f.fault? with
    | some fault => refuse fault
    | none => pure (if f.complaints.isEmpty then 0 else 1)

/-! ## Asking -/

/-- Answers a condition. -/
def condition (words : List String) : Running Nat := do
  match Condition.evaluate (← get) words with
  | .ok answer => pure (if answer then 0 else 1)
  | .error fault => refuse fault.message

/-- Answers a condition that ends with a bracket. -/
def bracket : Builtin := fun _ args =>
  if args.getLast? = some "]" then condition args.dropLast else refuse "missing ]"

/-! ## Directories -/

/-- Prints the directory. -/
def pwd : Builtin := fun _ args => do
  let _ ← options "LP" args
  printLine (Machine.pathText (← shell).directory)
  pure 0

/-- The place of a path whose two dots take back the name in front of them, whatever it leads to. -/
def reduced (here : List String) (path : String) : List String :=
  let start := if FileNode.isAbsolute path then [] else here
  (FileNode.components path).foldl
    (fun place name => if name = ".." then place.dropLast else place ++ [name]) start

/-- The directory at a path whose two dots take back the name in front of them. -/
def directoryAt? (m : Machine) (path : String) : Option (List String) :=
  let place := reduced m.shell.directory (cooked path)
  if (m.files.get? place).any FileNode.isDirectory then some place else none

/-- Where a directory is searched for: the starts of its path, and whether it is shown. -/
def directoryStarts (c : Context) (target : String) : List (String × Bool) :=
  let first := (target.splitOn "/").headD ""
  match c.value? "CDPATH" with
  | some places =>
    if first = "" || first = "." || first = ".." then [("", false)]
    else
      (places.splitOn ":").map (fun place =>
        if place = "" then ("", false) else (place ++ "/", true))
        ++ [("", false)]
  | none => [("", false)]

/-- Goes to another directory. -/
def cd : Builtin := fun _ args => do
  let (_, args) ← options "LP" args
  let c ← shell
  let (target, shown) := match args with
    | [] => ((c.value? "HOME").getD "", false)
    | "-" :: _ => ((c.value? "OLDPWD").getD "", true)
    | target :: _ => (target, false)
  let m ← get
  let found? := (directoryStarts c target).findSome? fun (start, tells) =>
    let path := start ++ target
    (directoryAt? m (if path = "" then "." else path)).map (·, tells)
  match found? with
  | none => refuse ("can't cd to " ++ target)
  | some (place, tells) =>
    let new := Machine.pathText place
    modifyShell fun c => ({ c with directory := place }.setExported "OLDPWD"
      (Machine.pathText c.directory)).setExported "PWD" new
    if shown || tells then printLine new
    pure 0

/-! ## The system -/

/-- So many octal digits of a number. -/
def octal (digits n : Nat) : String :=
  Magnitude.padded digits (String.ofList (Nat.toDigits 8 n))

/-- The mask of new files as text. -/
def maskText (mask : Nat) : String :=
  let part (who : String) (shift : Nat) : String :=
    let bits := 7 - mask / shift % 8
    who ++ "=" ++ (if bits / 4 % 2 = 1 then "r" else "") ++ (if bits / 2 % 2 = 1 then "w" else "")
      ++ if bits % 2 = 1 then "x" else ""
  ",".intercalate [part "u" 64, part "g" 8, part "o" 1]

/-- The name that keeps the mask of new files. -/
def maskName : String := "%umask"

/-- The mask of new files, as it is at first. -/
def firstMask : Nat := 18

/-- Shows or sets the mask of new files. -/
def umask : Builtin := fun _ args => do
  let (options, args) ← options "S" args
  match args with
  | [] =>
    let mask := (((← shell).value? maskName).bind String.toNat?).getD firstMask
    printLine (if options.isEmpty then octal 4 mask else maskText mask)
    pure 0
  | argument :: _ =>
    let digits := argument.toList
    if digits.all Escape.isOctal then
      let mask : Nat := digits.foldl (fun n c => 8 * n + (c.toNat - 48)) 0
      modifyShell (·.set maskName (toString (mask % 512)))
      pure 0
    else refuse ("Illegal number: " ++ argument)

/-- Shows the times that the shell has used, which are too short to show. -/
def times : Builtin := fun _ _ => do
  let line := "0m0.000000s 0m0.000000s"
  printLine line
  printLine line
  pure 0

/-- Does nothing and succeeds. -/
def succeed : Builtin := fun _ _ => pure 0

/-- Does nothing and fails. -/
def fail : Builtin := fun _ _ => pure 1

/-- Shows a limit of the system; there is none. -/
def ulimit : Builtin := fun _ args => do
  let (_, args) ← options "HSatfdscmlpnvwr" args
  if args.isEmpty then printLine "unlimited"
  pure 0

end SignatureAudit.Emulation.Shell.Builtin
