import SignatureAudit.Emulation.Shell.Builtin.Basic
import SignatureAudit.Emulation.Shell.Field

/-!
# Names and arguments

The commands that give values to names, take them away and read them, and those that change the
arguments and the options of the shell.
-/

namespace SignatureAudit.Emulation.Shell.Builtin

open Running (shell modifyShell refuse printLine assign)

/-- The name and the value of an argument that has an equals sign, or the name alone. -/
def nameAndValue (argument : String) : String × Option String :=
  match Text.cut? "=" argument with
  | some (name, value) => (name, some value)
  | none => (argument, none)

/-- The names with a value that are listed, in ascending order, each as it could be written in a
script behind a word. -/
def listed (front : String) (c : Context) (selects : Binding → Bool) : List String :=
  let names := c.bindings.filterMap fun (name, b) =>
    if isName name.toList && selects b then
      match b.value? with
      | some value => some (name ++ "=" ++ quotedText value)
      | none => if front = "" then none else some name
    else none
  names.mergeSort.map (front ++ ·)

/-- Marks names, gives them values, or lists the names with the mark. -/
def marking (word : String) (mark : Binding → Binding) (isMarked : Binding → Bool) : Builtin :=
  fun _ args => do
    let (options, args) ← options "p" args
    if args.isEmpty || !options.isEmpty then
      for line in listed (word ++ " ") (← shell) isMarked do printLine line
    else
      for argument in args do
        let (name, value?) := nameAndValue argument
        if !isName name.toList then refuse (name ++ ": bad variable name")
        match value? with
        | some value => assign name value
        | none => pure ()
        modifyShell fun c => c.bind name (mark ((c.binding? name).getD {}))
    pure 0

/-- Lets programs inherit names. -/
def inherit : Builtin :=
  marking "export" (fun b => { b with exported := true }) (·.exported)

/-- Keeps the values of names. -/
def fix : Builtin := marking "readonly" (fun b => { b with fixed := true }) (·.fixed)

/-- Takes values away from names, or takes functions away. -/
def unset : Builtin := fun _ args => do
  let (options, args) ← options "vf" args
  for name in args do
    if options.any (·.1 = 'f') then
      modifyShell fun c => { c with functions := c.functions.filter (·.1 ≠ name) }
    else if !isName name.toList then refuse (name ++ ": bad variable name")
    else if ((← shell).binding? name).any (·.fixed) then refuse (name ++ ": is read only")
    else modifyShell (·.rebind name none)
  pure 0

/-- Gives names a meaning of their own in a function. -/
def localize : Builtin := fun _ args => do
  if (← shell).depth = 0 then refuse "not in a function"
  else
    for argument in args do
      let (name, value?) := nameAndValue argument
      if !isName name.toList then refuse (name ++ ": bad variable name")
      modifyShell fun c =>
        if c.hidden.any (·.1 = name) then c
        else { c with hidden := (name, c.binding? name) :: c.hidden }
      match value? with
      | some value => assign name value
      | none => pure ()
    pure 0

/-- Drops arguments. -/
def shift : Builtin := fun _ args => do
  let count ← match args with
    | [] => pure 1
    | argument :: _ => number argument
  if (← shell).arguments.length < count then refuse "can't shift that many"
  else
    modifyShell fun c => { c with arguments := c.arguments.drop count }
    pure 0

/-! ## Options of the shell -/

/-- The options with their letters. -/
def optionNames : List (String × Char) :=
  [("errexit", 'e'), ("noglob", 'f'), ("ignoreeof", 'I'), ("interactive", 'i'), ("monitor", 'm'),
   ("noexec", 'n'), ("stdin", 's'), ("xtrace", 'x'), ("verbose", 'v'), ("vi", 'V'), ("emacs", 'E'),
   ("noclobber", 'C'), ("allexport", 'a'), ("notify", 'b'), ("nounset", 'u'), ("privileged", 'p')]

/-- The options that have no letter. They change nothing. -/
def namedOnly : List String := ["nolog", "debug"]

/-- The options that are switched on in the order in which they are shown. -/
def orderedOptions (options : List Char) : List Char :=
  (optionNames.reverse.map (·.2)).filter options.contains

/-- Switches an option on or off. -/
def switch (on : Bool) (letter : Char) : Running Unit :=
  modifyShell fun c =>
    let others := c.options.filter (· ≠ letter)
    { c with options := orderedOptions (if on then letter :: others else others) }

/-- Switches the options of an argument; tells whether a name of an option has to follow. -/
def switchAll (on : Bool) : List Char → Running Bool
  | [] => pure false
  | c :: rest => do
    if c = 'o' then
      let _ ← switchAll on rest
      pure true
    else if optionNames.any (·.2 = c) then
      switch on c
      switchAll on rest
    else refuse ("Illegal option " ++ (if on then "-" else "+") ++ String.singleton c)

/-- Switches an option on or off by its name. -/
def switchNamed (on : Bool) (name : String) : Running Unit := do
  match optionNames.lookup name with
  | some letter => switch on letter
  | none =>
    if namedOnly.contains name then pure ()
    else refuse ("Illegal option " ++ (if on then "-o " else "+o ") ++ name)

/-- The options of the shell as they are listed. -/
def optionLines (c : Context) (commands : Bool) : List String :=
  let options := optionNames.map (fun (name, letter) => (name, c.has letter))
    ++ namedOnly.map fun name => (name, false)
  if commands then options.map fun (name, on) => "set " ++ (if on then "-o " else "+o ") ++ name
  else
    "Current option settings" :: options.map fun (name, on) =>
      name ++ String.ofList (List.replicate (16 - name.length) ' ') ++ if on then "on" else "off"

/-- Reads the options of the shell in front of arguments; answers the arguments if there are any. -/
def shellOptions : List String → Running (Option (List String))
  | [] => pure none
  | argument :: rest =>
    match argument.toList with
    | ['-', '-'] => pure (some rest)
    | ['-'] => pure (if rest.isEmpty then none else some rest)
    | sign :: c :: cs => do
      if sign == '-' || sign == '+' then
        let named ← switchAll (sign == '-') (c :: cs)
        if named then
          match rest with
          | [] =>
            for line in optionLines (← shell) (sign == '+') do printLine line
            pure none
          | name :: rest =>
            switchNamed (sign == '-') name
            shellOptions rest
        else shellOptions rest
      else pure (some (argument :: rest))
    | _ => pure (some (argument :: rest))

/-- Sets options and arguments, or lists all values. -/
def setOptions : Builtin := fun _ args => do
  if args.isEmpty then
    for line in listed "" (← shell) fun _ => true do printLine line
  else
    match ← shellOptions args with
    | some arguments => modifyShell fun c => { c with arguments }
    | none => pure ()
  pure 0

/-! ## Reading -/

/-- The characters of a line, in which backslashes quote, and whether the line goes on. -/
def lineLetters (raw : Bool) : List Char → List Letter × Bool
  | [] => ([], false)
  | c :: rest =>
    if c == '\\' && !raw then
      match rest with
      | [] => ([], false)
      | d :: rest =>
        if d == '\n' then ([], true)
        else
          let (more, goesOn) := lineLetters raw rest
          ((d, true) :: more, goesOn)
    else if c == '\n' then ([], false)
    else
      let (more, goesOn) := lineLetters raw rest
      ((c, false) :: more, goesOn)

/-- Reads a line, which goes on behind a newline that is quoted. Tells whether it has ended. -/
def readLetters (raw : Bool) : (most : Nat) → Running (List Letter × Bool)
  | 0 => pure ([], true)
  | most + 1 => do
    let line ← Running.readLine 0
    let (letters, goesOn) := lineLetters raw line.toList
    if goesOn then
      let (more, ended) ← readLetters raw most
      pure (letters ++ more, ended)
    else pure (letters, line.toList.getLast? == some '\n')

/-- Whether a letter separates words. -/
def separates (separators : List Char) (l : Letter) : Bool :=
  !l.2 && separators.contains l.1

/-- Whether a letter is a blank that separates words. -/
def isBlank (separators : List Char) (l : Letter) : Bool :=
  separates separators l && Cutting.isBlank l.1

/-- The text of letters. -/
def lettersText (letters : List Letter) : String := String.ofList (letters.map (·.1))

/-- What follows the separators at the end of a word: blanks, and one that is no blank. -/
def afterSeparators (separators : List Char) (letters : List Letter) : List Letter :=
  let rest := letters.dropWhile (isBlank separators)
  match rest with
  | l :: others =>
    if separates separators l then others.dropWhile (isBlank separators) else rest
  | [] => []

/-- The values that names get from a line: a word each, and the last one all that is left. -/
def wordsFor (separators : List Char) (letters : List Letter) : List String →
    List (String × String)
  | [] => []
  | [name] =>
    let word := letters.takeWhile (!separates separators ·)
    let left := letters.drop word.length
    let trimmed := (letters.reverse.dropWhile (isBlank separators)).reverse
    [(name, lettersText (if (afterSeparators separators left).isEmpty then word else trimmed))]
  | name :: rest =>
    let word := letters.takeWhile (!separates separators ·)
    let left := afterSeparators separators (letters.drop word.length)
    (name, lettersText word) :: wordsFor separators left rest

/-- Reads a line into names. -/
def readNames : Builtin := fun _ args => do
  let (options, names) ← options "rp:" args
  if names.isEmpty then refuse "arg count"
  for name in names do
    if !isName name.toList then refuse (name ++ ": bad variable name")
  let (letters, ended) ← readLetters (options.any (·.1 = 'r')) 10000
  let separators := (← shell).separators
  let letters := letters.dropWhile (isBlank separators)
  for (name, value) in wordsFor separators letters names do assign name value
  pure (if ended then 0 else 1)

/-! ## Options of scripts -/

/-- The name that keeps where in an argument the next option stands. -/
def offsetName : String := "%offset"

/-- What is read of an option. -/
structure OptionStep where
  letter : String
  argument? : Option String := none
  /-- The position of the next argument, counted from one. -/
  next : Nat
  /-- Where in it the next option stands. -/
  offset : Nat := 0
  message? : Option String := none
  status : Nat := 0

/-- Reads the next option of some arguments. -/
def nextOption (known : String) (arguments : List String) (position offset : Nat) : OptionStep :=
  let quiet := known.toList.head? == some ':'
  let argument := arguments.getD (position - 1) ""
  let cs := argument.toList
  if offset = 0 && (cs.head? != some '-' || cs.length < 2) then
    { letter := "?", next := position, status := 1 }
  else if offset = 0 && argument = "--" then { letter := "?", next := position + 1, status := 1 }
  else
    let at_ := max 1 offset
    match cs[at_]? with
    | none => { letter := "?", next := position + 1, status := 1 }
    | some c =>
      let text := String.singleton c
      let ends := cs.length ≤ at_ + 1
      let (next, offset) := if ends then (position + 1, 0) else (position, at_ + 1)
      match (known.toList.dropWhile (· ≠ c)) with
      | [] =>
        if quiet then { letter := "?", argument? := some text, next, offset }
        else { letter := "?", next, offset, message? := some ("Illegal option -" ++ text) }
      | _ :: ':' :: _ =>
        if !ends then
          { letter := text, argument? := some (String.ofList (cs.drop (at_ + 1)))
            next := position + 1 }
        else
          match arguments[position]? with
          | some argument => { letter := text, argument? := some argument, next := position + 2 }
          | none =>
            if quiet then { letter := ":", argument? := some text, next := position + 1 }
            else { letter := "?", next := position + 1
                   message? := some ("No arg for -" ++ text ++ " option") }
      | _ => { letter := text, next, offset }

/-- Reads the next option of a script into a name. -/
def getopts : Builtin := fun _ args => do
  match args with
  | known :: name :: arguments =>
    let c ← shell
    let arguments := if arguments.isEmpty then c.arguments else arguments
    let position := ((c.value? "OPTIND").bind String.toNat?).getD 1
    let parts? := (c.value? offsetName).map fun text => (text.splitOn ":").map String.toNat?
    let offset := match parts? with
      | some [some forPosition, some offset] => if forPosition = position then offset else 0
      | _ => 0
    let step := nextOption known arguments (max 1 position) offset
    match step.message? with
    | some message => Running.put 2 (message ++ "\n")
    | none => pure ()
    assign name step.letter
    assign "OPTIND" (toString step.next)
    match step.argument? with
    | some argument => assign "OPTARG" argument
    | none => modifyShell (·.rebind "OPTARG" none)
    modifyShell (·.set offsetName (toString step.next ++ ":" ++ toString step.offset))
    pure step.status
  | _ => refuse "Usage: getopts optstring var [arg...]"

end SignatureAudit.Emulation.Shell.Builtin
