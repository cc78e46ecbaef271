import SignatureAudit.Emulation.Shell.Expansion

/-!
# Redirections

A redirection makes a descriptor lead to a file, to a document, or to where another descriptor
leads. The redirections of a command are made in their order and end with it.
-/

namespace SignatureAudit.Emulation.Shell

open Running (shell modifyShell)

/-- What is said when a file cannot be read from or written to. -/
def FileFault.told (fault : FileFault) (writes : Bool) (path : String) : String :=
  (if writes then "cannot create " else "cannot open ") ++ path ++ ": " ++
    match fault with
    | .missing | .notDirectory => if writes then "Directory nonexistent" else "No such file"
    | fault => fault.reason

namespace Machine

/-- The channel of a device; some lead to where a descriptor leads. -/
def device? (m : Machine) (place : List String) : Option (Nat ⊕ Channel) :=
  match place with
  | ["dev", "stdin"] => some (.inl 0)
  | ["dev", "stdout"] => some (.inl 1)
  | ["dev", "stderr"] => some (.inl 2)
  | ["dev", name] => if (m.files.get? ["dev", name]).isSome then some (.inr .nothing) else none
  | _ => none

/-- The descriptor that a path in the directory of descriptors calls. -/
def descriptor? (path : String) : Option Nat :=
  (Text.dropFront? "/dev/fd/" path).bind String.toNat?

/-- The machine with a descriptor that leads to where another leads. -/
def duplicated? (m : Machine) (descriptor source : Nat) : Option Machine :=
  (m.shell.descriptors.lookup source).map fun index => m.directed descriptor (some index)

/-- The machine with a descriptor that leads to a place. -/
def openedAt (m : Machine) (descriptor : Nat) (place : List String) (appends : Bool) : Machine :=
  match m.device? place with
  | some (.inl source) => (m.duplicated? descriptor source).getD m
  | some (.inr channel) => m.opened descriptor channel
  | none => m.opened descriptor (.file place 0 appends)

/-- The machine with a descriptor that leads to a file, or what is said about it. -/
def openedFile (m : Machine) (descriptor : Nat) (direction : Direction) (path : String) :
    Except String Machine :=
  match descriptor? path with
  | some source =>
    match m.duplicated? descriptor source with
    | some m => .ok m
    | none => .error (FileFault.told .missing (direction != .input) path)
  | none =>
    match direction with
    | .input =>
      match m.place path with
      | .ok place => .ok (m.openedAt descriptor place false)
      | .error fault => .error (FileFault.told fault false path)
    | direction =>
      match m.writable path with
      | .error fault => .error (FileFault.told fault true path)
      | .ok place =>
        if (m.device? place).isSome then .ok (m.openedAt descriptor place false)
        else
          let exists? := (m.files.get? place).isSome
          if direction = .output && exists? && m.shell.has 'C' then
            .error (FileFault.told .present true path)
          else
            let m := if direction = .output || !exists? then m.fill place .empty else m
            .ok (m.openedAt descriptor place (direction = .append))

/-- The machine with a descriptor that leads to where another leads, or nowhere. The other is
written with one digit. -/
def redirectedTo (m : Machine) (descriptor : Nat) (target : String) :
    Option (Except String Machine) :=
  match target.toList with
  | ['-'] => some (.ok (m.directed descriptor none))
  | [c] =>
    if c.isDigit then
      match m.duplicated? descriptor (c.toNat - 48) with
      | some m => some (.ok m)
      | none => some (.error (target ++ ": Bad file descriptor"))
    else none
  | _ => none

end Machine

/-- Makes redirections; answers what is said about one that cannot be made. -/
def redirect (script : Scripting) : List Redirect → Running (Option String)
  | [] => pure none
  | .document descriptor word :: rest => do
    let text ← word.documentText script
    modify fun m => m.opened descriptor (.stream text.toList [] 0 0)
    redirect script rest
  | .file descriptor direction word :: rest => do
    let target ← word.text script
    let m ← get
    let changed? := if direction = .duplicate then m.redirectedTo descriptor target
      else some (m.openedFile descriptor direction target)
    match changed? with
    | none => Running.refuse "Syntax error: Bad fd number"
    | some (.error message) => pure (some message)
    | some (.ok m) => do
      set m
      redirect script rest

/-- Runs a part with redirections, which end with it. A redirection that cannot be made is told, and
perhaps nothing more can be run. -/
def redirected (script : Scripting) (redirects : List Redirect) (matters : Bool)
    (part : Running Nat) : Running Nat := do
  let before := (← shell).descriptors
  Running.andFinally
    (do
      match ← redirect script redirects with
      | none => part
      | some message =>
        if matters then Running.refuse message else Running.complainAs message 2)
    (modifyShell fun c => { c with descriptors := before })

end SignatureAudit.Emulation.Shell
