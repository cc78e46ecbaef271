import SignatureAudit.Emulation.Shell.Inner

/-!
# Programs

The programs of a machine read options, files and their input, and print. Here are the conventions
that they share: how options are written, how names stand in messages, and where input comes from.
-/

namespace SignatureAudit.Emulation.Utility

open Shell (Running Machine)

/-! ## Names in messages -/

/-- A name in quotes. -/
def quoted (name : String) : String :=
  let cs := name.toList.flatMap fun c =>
    if c == '\'' || c == '\\' then ['\\', c] else if c == '\n' then ['\\', 'n'] else [c]
  "'" ++ String.ofList cs ++ "'"

/-- A character that a name can have without quotes. -/
def isPlain (c : Char) : Bool :=
  c.isAlphanum || ['_', '-', '.', '/', ',', ':', '+', '@', '%', ']', '\x7b', '\x7d'].contains c

/-- A name, in quotes only if it could not stand in a script without them. -/
def shown (name : String) : String :=
  let cs := name.toList
  let plain := match cs with
    | [] => false
    | c :: rest => (isPlain c && c != '~') && rest.all fun c => isPlain c || c == '~' || c == '#'
  if plain then name
  else if cs.contains '\'' && !cs.any fun c => ['"', '$', '\x60', '\\', '!'].contains c then
    "\"" ++ name ++ "\""
  else "'" ++ name ++ "'"

/-- The name by which the program was called. -/
def called : Running String := do return (← Running.shell).name

/-- Writes a message of the program. -/
def warn (message : String) : Running Unit := do
  Running.put 2 ((← called) ++ ": " ++ message ++ "\n")

/-- Writes a message of the program, which ends with an outcome. -/
def fail (message : String) (status : Nat := 1) : Running Nat := do
  warn message
  pure status

/-- Where a user who calls the program in a wrong way is sent. -/
def hint : Running String := do
  return "Try '" ++ (← called) ++ " --help' for more information."

/-- Tells that the program was called in a wrong way. -/
def misuse (message : String) (status : Nat := 1) : Running Nat := do
  warn message
  Running.put 2 ((← hint) ++ "\n")
  pure status

/-! ## Options -/

/-- Whether an option has an argument. -/
inductive Arity
  | none
  | required
  | optional
  deriving DecidableEq, Repr

/-- An option: how it is called in the program, its letters and its words. -/
structure OptionRule where
  name : String
  letters : List Char := []
  words : List String := []
  arity : Arity := .none

/-- An option of one letter. -/
def letter (c : Char) (words : List String := []) : OptionRule :=
  { name := String.singleton c, letters := [c], words }

/-- An option of one letter that has an argument. -/
def taking (c : Char) (words : List String := []) : OptionRule :=
  { name := String.singleton c, letters := [c], words, arity := .required }

/-- Options with their arguments, and the other arguments. -/
structure Given where
  options : List (String × String) := []
  operands : List String := []

namespace Given

/-- Whether an option is given. -/
def has (g : Given) (name : String) : Bool := g.options.any (·.1 = name)

/-- The last argument of an option. -/
def last? (g : Given) (name : String) : Option String :=
  (g.options.reverse.find? (·.1 = name)).map (·.2)

/-- The arguments of an option. -/
def all (g : Given) (name : String) : List String :=
  (g.options.filter (·.1 = name)).map (·.2)

/-- With one more option. -/
def withOption (name value : String) (g : Given) : Given :=
  { g with options := (name, value) :: g.options }

/-- With one more operand. -/
def withOperand (operand : String) (g : Given) : Given :=
  { g with operands := operand :: g.operands }

end Given

/-- Reads the letters of options in one argument; tells whether the next argument is taken. -/
def readLetters (rules : List OptionRule) (next? : Option String) :
    List Char → Except String (List (String × String) × Bool)
  | [] => .ok ([], false)
  | c :: rest =>
    match rules.find? (·.letters.contains c) with
    | none => .error ("invalid option -- '" ++ String.singleton c ++ "'")
    | some rule =>
      match rule.arity with
      | .none => do
        let (more, taken) ← readLetters rules next? rest
        .ok ((rule.name, "") :: more, taken)
      | .optional => .ok ([(rule.name, String.ofList rest)], false)
      | .required =>
        if !rest.isEmpty then .ok ([(rule.name, String.ofList rest)], false)
        else
          match next? with
          | some argument => .ok ([(rule.name, argument)], true)
          | none => .error ("option requires an argument -- '" ++ String.singleton c ++ "'")

/-- The rule of a word, which may be shortened as long as it is clear. -/
def ruleOf (rules : List OptionRule) (word : String) : Except String OptionRule :=
  match rules.find? (·.words.contains word) with
  | some rule => .ok rule
  | none =>
    let fitting := rules.flatMap fun rule =>
      (rule.words.filter fun w => word.toList.isPrefixOf w.toList).map (rule, ·)
    match fitting with
    | [] => .error ("unrecognized option '--" ++ word ++ "'")
    | [(rule, _)] => .ok rule
    | (rule, _) :: others =>
      if others.all (·.1.name = rule.name) then .ok rule
      else .error ("option '--" ++ word ++ "' is ambiguous; possibilities:"
        ++ String.join (fitting.map fun (_, w) => " '--" ++ w ++ "'"))

/-- Reads an option that is a word behind two dashes; tells whether the next argument is taken. -/
def readWord (rules : List OptionRule) (next? : Option String) (text : String) :
    Except String ((String × String) × Bool) := do
  let (word, value?) := match text.splitOn "=" with
    | word :: part :: parts => (word, some ("=".intercalate (part :: parts)))
    | _ => (text, none)
  let rule ← ruleOf rules word
  let full := (rule.words.find? fun w => word.toList.isPrefixOf w.toList).getD word
  match rule.arity, value? with
  | .none, none => .ok ((rule.name, ""), false)
  | .none, some _ => .error ("option '--" ++ full ++ "' doesn't allow an argument")
  | .optional, value? => .ok ((rule.name, value?.getD ""), false)
  | .required, some value => .ok ((rule.name, value), false)
  | .required, none =>
    match next? with
    | some argument => .ok ((rule.name, argument), true)
    | none => .error ("option '--" ++ full ++ "' requires an argument")

/-- Reads arguments. Options stand in front of the operands or among them, up to two dashes. -/
def readArguments (rules : List OptionRule) (inFront : Bool) :
    List String → Except String Given
  | [] => .ok {}
  | argument :: rest =>
    match argument.toList with
    | '-' :: '-' :: c :: cs => do
      let (option, taken) ← readWord rules rest.head? (String.ofList (c :: cs))
      match taken, rest with
      | true, _ :: rest => return (← readArguments rules inFront rest).withOption option.1 option.2
      | _, rest => return (← readArguments rules inFront rest).withOption option.1 option.2
    | ['-', '-'] => .ok { operands := rest }
    | '-' :: c :: cs => do
      let (options, taken) ← readLetters rules rest.head? (c :: cs)
      match taken, rest with
      | true, _ :: rest =>
        let g ← readArguments rules inFront rest
        return { g with options := options ++ g.options }
      | _, rest =>
        let g ← readArguments rules inFront rest
        return { g with options := options ++ g.options }
    | _ =>
      if inFront then .ok { operands := argument :: rest }
      else do return (← readArguments rules inFront rest).withOperand argument

/-- How a program takes its arguments. -/
structure ArgumentStyle where
  /-- Options only stand in front of the operands. -/
  inFront : Bool := false
  /-- The outcome of a wrong use. -/
  misused : Nat := 1

/-- A program that reads its arguments by rules. -/
def withStyle (style : ArgumentStyle) (rules : List OptionRule) (run : Given → Running Nat)
    (args : List String) : Running Nat := do
  match readArguments rules style.inFront args with
  | .error message => misuse message style.misused
  | .ok given => run given

/-- A program that reads its arguments by rules in the usual style. -/
def withOptions (rules : List OptionRule) (run : Given → Running Nat) (args : List String) :
    Running Nat :=
  withStyle {} rules run args

/-! ## Input -/

/-- The text of a file, or of the input, or why there is none. -/
def textOf (path : String) : Running (Except FileFault String) := do
  let m ← get
  if path = "-" then
    match m.channel? 0 with
    | some (.file place _ _) =>
      if (m.files.get? place).any FileNode.isDirectory then pure (.error .isDirectory)
      else do return .ok (← Running.readAll 0)
    | _ => do return .ok (← Running.readAll 0)
  else
    match m.place path with
    | .error fault => pure (.error fault)
    | .ok ["dev", "stdin"] => do return .ok (← Running.readAll 0)
    | .ok place =>
      match m.files.get? place with
      | some (.file bytes _) => pure (.ok (String.ofList (rawChars bytes)))
      | some (.directory _) => pure (.error .isDirectory)
      | none => pure (.error .missing)

/-- Does something with each input, which is the standard input if no paths are given. A text that
cannot be read is told, and the outcome shows it. -/
def eachInput (paths : List String) (use : (path text : String) → Running Unit)
    (status : Nat := 1) : Running Nat := do
  let mut outcome := 0
  for path in if paths.isEmpty then ["-"] else paths do
    match ← textOf path with
    | .ok text => use path text
    | .error fault =>
      warn (shown path ++ ": " ++ fault.reason)
      outcome := status
  pure outcome

/-- The lines of a text without their newlines, and whether the last one has one. -/
def linesOf (text : String) : List String × Bool :=
  let lines := text.splitOn "\n"
  if lines.getLast? = some "" then (lines.dropLast, true) else (lines, false)

/-- Lines as they are printed. -/
def printLines (lines : List String) : Running Unit :=
  Running.print (String.join (lines.map (· ++ "\n")))

/-- The lines of all inputs. -/
def allLines (paths : List String) : Running (List String × Nat) := do
  let mut lines : Array String := #[]
  let mut outcome := 0
  for path in if paths.isEmpty then ["-"] else paths do
    match ← textOf path with
    | .ok text => lines := lines ++ (linesOf text).1.toArray
    | .error fault =>
      warn (shown path ++ ": " ++ fault.reason)
      outcome := 1
  pure (lines.toList, outcome)

end SignatureAudit.Emulation.Utility
