import SignatureAudit.Emulation.Shell.Format
import SignatureAudit.Emulation.Utility.Edit.Script

/-!
# Reading scripts for editing lines

A script is read command by command. What a command means is worked out when all commands are known,
since jumps can lead forward. A fault tells how much of the script is left behind it.
-/

namespace SignatureAudit.Emulation.Utility.Edit

/-- Why a text is no script. -/
structure ScriptFault where
  message : String
  /-- The number of characters behind the fault. -/
  left : Nat
  /-- The fault does not belong to a place. -/
  everywhere : Bool := false
  deriving Repr

/-- A fault at the front of a text. -/
def fault {α : Type} (message : String) (rest : List Char) : Except ScriptFault α :=
  .error { message, left := rest.length }

/-- An action before jumps and ends of blocks are known. -/
inductive Draft
  | action (action : Action)
  | opening
  | closing
  | label (name : String)
  /-- A jump to a label or to the end, perhaps only if substitutions were made or not. -/
  | jump (made? : Option Bool) (label : String)
  deriving Repr

/-- Text without spaces and tabs in front. -/
def skipBlanks (cs : List Char) : List Char := cs.dropWhile fun c => c == ' ' || c == '\t'

/-- Text without any space in front. -/
def skipSpace (cs : List Char) : List Char :=
  cs.dropWhile fun c => c == ' ' || (c.toNat > 8 && c.toNat < 14)

/-- The number at the front of a text. -/
def number (cs : List Char) : Nat × List Char :=
  let digits := cs.takeWhile Char.isDigit
  (Text.digitsValue digits, cs.drop digits.length)

/-! ## Texts between marks -/

/-- The text up to a mark that ends it, and what is left. Behind a backslash the mark stands for
itself. -/
def upTo (mark : Char) : List Char → Option (List Char × List Char)
  | [] => none
  | [c] => if c == mark then some ([], []) else none
  | c :: d :: rest =>
    if c == mark then some ([], d :: rest)
    else if c == '\\' then do
      let (text, left) ← upTo mark rest
      some (if d == mark && d != '&' then d :: text else c :: d :: text, left)
    else do
      let (text, left) ← upTo mark (d :: rest)
      some (c :: text, left)

/-- The length of the brackets at the front of a text, behind the first one. -/
def bracketLength (cs : List Char) : Nat :=
  let front := match cs with
    | '^' :: ']' :: _ => 2
    | '^' :: _ => 1
    | ']' :: _ => 1
    | _ => 0
  front + ((cs.drop front).takeWhile (· != ']')).length

/-- The text of a regular expression up to a mark that ends it, and what is left. Some characters
are inside brackets, where the mark ends nothing. -/
def regexUpTo (mark : Char) : (inside : Nat) → List Char → Option (List Char × List Char)
  | _, [] => none
  | inside + 1, c :: rest => do
    let (text, left) ← regexUpTo mark inside rest
    some (c :: text, left)
  | 0, [c] => if c == mark then some ([], []) else none
  | 0, c :: d :: rest =>
    if c == mark then some ([], d :: rest)
    else if c == '\\' && d == mark then do
      let (text, left) ← regexUpTo mark 0 rest
      some (d :: text, left)
    else if c == '\\' then do
      let (text, left) ← regexUpTo mark 0 rest
      some (c :: d :: text, left)
    else if c == '\n' then none
    else do
      let inside := if c == '[' then bracketLength (d :: rest) else 0
      let (text, left) ← regexUpTo mark inside (d :: rest)
      some (c :: text, left)

/-- The character of an escape that regular expressions, replacements and texts know, and with how
many characters it is written behind the backslash. -/
def escape? : List Char → Option (Char × Nat)
  | 'a' :: _ => some ('\x07', 1)
  | 'f' :: _ => some ('\x0c', 1)
  | 'n' :: _ => some ('\n', 1)
  | 'r' :: _ => some ('\r', 1)
  | 't' :: _ => some ('\t', 1)
  | 'v' :: _ => some ('\x0b', 1)
  | 'x' :: a :: b :: _ => (Text.hexValue? [a, b]).map fun n => (Char.ofNat n, 3)
  | 'o' :: rest =>
    let digits := (rest.takeWhile Shell.Escape.isOctal).take 3
    if digits.isEmpty then none
    else
      let n : Nat := digits.foldl (fun n c => 8 * n + (c.toNat - 48)) 0
      some (Char.ofNat (n % 256), digits.length + 1)
  | 'd' :: rest =>
    let digits := (rest.takeWhile Char.isDigit).take 3
    if digits.length < 3 then none
    else some (Char.ofNat (Text.digitsValue digits % 256), 4)
  | _ => none

/-- A sign of regular expressions. -/
def isSign (c : Char) : Bool := ['.', '*', '[', ']', '^', '$', '\\', '/'].contains c

/-- The text of a regular expression in which escapes have been replaced; some characters are
skipped first. -/
def plainRegex : (skip : Nat) → List Char → List Char
  | _, [] => []
  | skip + 1, _ :: rest => plainRegex skip rest
  | 0, c :: rest =>
    if c != '\\' then c :: plainRegex 0 rest
    else
      match escape? rest with
      | some (d, length) =>
        if isSign d then '\\' :: d :: plainRegex length rest else d :: plainRegex length rest
      | none =>
        match rest with
        | d :: _ => c :: d :: plainRegex 1 rest
        | [] => [c]

/-- The expression that a text writes, or the last one if the text is empty. -/
def regexOf (extended : Bool) (text rest : List Char) : Except ScriptFault (Option Regex) :=
  if text.isEmpty then .ok none
  else
    match Regex.read { extended } (String.ofList (plainRegex 0 text)) with
    | .ok regex => .ok (some regex)
    | .error found => fault found.message rest

/-! ## Addresses -/

/-- Letters behind a regular expression of an address. -/
def patternLetters : List Char → Bool × Bool × List Char
  | 'I' :: rest =>
    let (_, byLines, left) := patternLetters rest
    (true, byLines, left)
  | 'M' :: rest =>
    let (folds, _, left) := patternLetters rest
    (folds, true, left)
  | rest => (false, false, rest)

/-- Reads the address at the front of a text, if there is one. -/
def address (extended : Bool) (cs : List Char) : Except ScriptFault (Option Address × List Char) :=
  let fitting (mark : Char) (rest : List Char) : Except ScriptFault (Option Address × List Char) :=
    match regexUpTo mark 0 rest with
    | none => fault "unterminated address regex" []
    | some (text, rest) => do
      let (folds, byLines, left) := patternLetters rest
      let regex? ← regexOf extended text rest
      .ok (some (.fitting { regex?, folds, byLines }), left)
  match cs with
  | '$' :: rest => .ok (some .last, rest)
  | '/' :: rest => fitting '/' rest
  | '\\' :: mark :: rest => fitting mark rest
  | c :: rest =>
    if c.isDigit then
      let (n, rest) := number (c :: rest)
      match skipBlanks rest with
      | '~' :: rest =>
        let (step, rest) := number rest
        .ok (some (.every n step), rest)
      | _ => .ok (some (.line n), rest)
    else .ok (none, cs)
  | [] => .ok (none, cs)

/-- Reads the second address at the front of a text. -/
def rangeEnd (extended : Bool) (cs : List Char) : Except ScriptFault (RangeEnd × List Char) :=
  match cs with
  | '+' :: rest =>
    let (n, rest) := number rest
    .ok (.count n, rest)
  | '~' :: rest =>
    let (n, rest) := number rest
    .ok (.multiple n, rest)
  | cs => do
    match ← address extended cs with
    | (some found, rest) => .ok (.address found, rest)
    | (none, _) => fault "unexpected \x60,'" cs

/-- Reads the selection in front of a command. -/
def selection (extended : Bool) (cs : List Char) : Except ScriptFault (Selection × List Char) := do
  match cs with
  | '+' :: rest | '~' :: rest =>
    let (_, rest) := number rest
    fault "invalid usage of +N or ~N as first address" rest
  | _ =>
  let (first?, rest) ← address extended cs
  let left := skipSpace rest
  let (until?, rest) ← match first?, left with
    | some _, ',' :: rest => do
      let (found, rest) ← rangeEnd extended (skipSpace rest)
      .ok (some found, rest)
    | _, _ => .ok (none, rest)
  let fromStart := match first?, until? with
    | some (.line 0), some (.address (.fitting _)) => true
    | _, _ => false
  let rest := skipSpace rest
  let atZero := match first? with
    | some (.line 0) => true
    | _ => false
  if atZero && !fromStart then fault "invalid usage of line address 0" (rest.drop 1)
  else
    match rest with
    | '!' :: rest =>
      match skipSpace rest with
      | '!' :: rest => fault "multiple \x60!'s" rest
      | rest => .ok ({ first?, until?, fromStart, negated := true }, rest)
    | rest => .ok ({ first?, until?, fromStart }, rest)

/-! ## Arguments of commands -/

/-- What follows a command that ends here. -/
def ended (cs : List Char) : Except ScriptFault (List Char) :=
  match skipBlanks cs with
  | [] => .ok []
  | c :: rest =>
    if c == '\n' || c == ';' || c == '\r' then .ok rest
    else if c == '\x7d' || c == '#' then .ok (c :: rest)
    else fault "extra characters after command" rest

/-- The rest of a line, and what follows. -/
def lineOf (cs : List Char) : String × List Char :=
  let line := cs.takeWhile (· != '\n')
  (String.ofList line, cs.drop (line.length + 1))

/-- Reads the name of a file up to the end of the line. -/
def fileOf (cs : List Char) : Except ScriptFault (String × List Char) :=
  match lineOf (skipBlanks cs) with
  | ("", _) => fault "missing filename in r/R/w/W commands" cs
  | (path, rest) => .ok (path, rest)

/-- A text up to the end of the line; a backslash keeps what stands behind it, also a newline. -/
def textLines : (skip : Nat) → List Char → List Char × List Char
  | _, [] => ([], [])
  | skip + 1, _ :: rest => textLines skip rest
  | 0, c :: rest =>
    if c == '\n' then ([], rest)
    else if c != '\\' then
      let (text, left) := textLines 0 rest
      (c :: text, left)
    else
      match escape? rest with
      | some (d, length) =>
        let (text, left) := textLines length rest
        (d :: text, left)
      | none =>
        match rest with
        | d :: _ =>
          let (text, left) := textLines 1 rest
          (d :: text, left)
        | [] => ([], [])

/-- Reads the text of a command. -/
def textArgument (cs : List Char) : Except ScriptFault (String × List Char) :=
  let finish (found : List Char × List Char) : Except ScriptFault (String × List Char) :=
    .ok (String.ofList found.1 ++ "\n", found.2)
  match skipBlanks cs with
  | [] => fault "expected \\ after \x60a', \x60c' or \x60i'" []
  | '\\' :: rest =>
    match skipBlanks rest with
    | [] => .ok ("", [])
    | '\n' :: rest => finish (textLines 0 rest)
    | _ =>
      match rest with
      | c :: _ => if c == '\\' then finish (textLines 0 rest)
        else
          let (text, left) := textLines 1 rest
          finish (c :: text, left)
      | [] => .ok ("", [])
  | cs => finish (textLines 0 cs)

/-- Reads a label. -/
def labelOf (cs : List Char) : String × List Char :=
  let cs := skipBlanks cs
  let name := cs.takeWhile fun c => c != '\n' && c != ';' && c != ' ' && c != '\t'
  (String.ofList name, cs.drop name.length)

/-! ## Substitutions -/

/-- The parts of a replacement; some characters are skipped first. -/
def replacements : (skip : Nat) → List Char → List Replacement
  | _, [] => []
  | skip + 1, _ :: rest => replacements skip rest
  | 0, c :: rest =>
    if c == '&' then .group 0 :: replacements 0 rest
    else if c != '\\' then .text c :: replacements 0 rest
    else
      match rest with
      | [] => [.text '\\']
      | d :: _ =>
        let special : Option Replacement := match d with
          | 'U' => some (.casing .upper)
          | 'L' => some (.casing .lower)
          | 'E' => some (.casing .asIs)
          | 'u' => some (.nextCasing .upper)
          | 'l' => some (.nextCasing .lower)
          | _ => if d.isDigit then some (.group (d.toNat - 48)) else none
        match special, escape? rest with
        | some part, _ => part :: replacements 1 rest
        | none, some (e, length) => .text e :: replacements length rest
        | none, none => .text d :: replacements 1 rest

/-- The largest number of a group in a replacement. -/
def lastGroup (parts : List Replacement) : Nat :=
  parts.foldl (fun n part =>
    match part with
    | .group m => max n m
    | _ => n) 0

/-- The letters behind a substitution. -/
structure Letters where
  place? : Option Nat := none
  everywhere : Bool := false
  prints : Bool := false
  folds : Bool := false
  byLines : Bool := false
  file? : Option String := none

/-- Reads the letters behind a substitution; some characters are skipped first. -/
def letters :
    (skip : Nat) → (found : Letters) → List Char → Except ScriptFault (Letters × List Char)
  | _, found, [] => .ok (found, [])
  | skip + 1, found, _ :: rest => letters skip found rest
  | 0, found, c :: rest =>
    match c with
    | 'g' =>
      if found.everywhere then fault "multiple \x60g' options to \x60s' command" rest
      else letters 0 { found with everywhere := true } rest
    | 'p' =>
      if found.prints then fault "multiple \x60p' options to \x60s' command" rest
      else letters 0 { found with prints := true } rest
    | 'i' | 'I' => letters 0 { found with folds := true } rest
    | 'm' | 'M' => letters 0 { found with byLines := true } rest
    | 'w' => do
      let (path, left) ← fileOf rest
      .ok ({ found with file? := some path }, left)
    | c =>
      if c.isDigit then
        let (n, left) := number (c :: rest)
        if n = 0 then fault "number option to \x60s' command may not be zero" left
        else if found.place?.isSome then fault "multiple number options to \x60s' command" left
        else letters (rest.length - left.length) { found with place? := some n } rest
      else if c == '\n' || c == ';' then .ok (found, rest)
      else if c == '\x7d' || c == '#' then .ok (found, c :: rest)
      else if c == ' ' || c == '\t' || c == '\r' then letters 0 found rest
      else fault "unknown option to \x60s'" rest

/-- Reads a substitution behind its letter. -/
def substitution (extended : Bool) (cs : List Char) : Except ScriptFault (Action × List Char) :=
  let unended : Except ScriptFault (Action × List Char) := fault "unterminated \x60s' command" []
  match cs with
  | [] => unended
  | mark :: rest =>
    if mark == '\n' || mark == '\\' then unended
    else
      match regexUpTo mark 0 rest with
      | none => unended
      | some (pattern, rest) =>
        match upTo mark rest with
        | none => unended
        | some (text, rest) => do
          let parts := replacements 0 text
          let (found, left) ← letters 0 {} rest
          let regex? ← regexOf extended pattern left
          let groups := (regex?.map Regex.groupCount).getD 9
          if groups < lastGroup parts then
            fault ("invalid reference \\" ++ toString (lastGroup parts)
              ++ " on \x60s' command's RHS") left
          else
            .ok (.substitute {
              pattern := { regex?, folds := found.folds, byLines := found.byLines }
              replacement := parts
              place := found.place?.getD 1
              everywhere := found.everywhere
              prints := found.prints
              file? := found.file? }, left)

/-- The characters of a list that replaces others. -/
def tableSide : List Char → List Char
  | '\\' :: c :: rest =>
    (if c == 'n' then '\n' else if c == 't' then '\t' else c) :: tableSide rest
  | c :: rest => c :: tableSide rest
  | [] => []

/-- Reads a table of characters behind its letter. -/
def table (cs : List Char) : Except ScriptFault (Action × List Char) :=
  let unended : Except ScriptFault (Action × List Char) := fault "unterminated \x60y' command" []
  match cs with
  | [] => unended
  | mark :: rest =>
    match upTo mark rest with
    | none => unended
    | some (first, rest) =>
      match upTo mark rest with
      | none => unended
      | some (second, rest) => do
        let first := tableSide first
        let second := tableSide second
        let left ← ended rest
        if first.length ≠ second.length then
          fault "strings for \x60y' command are different lengths" rest
        else .ok (.replace (first.zip second), left)

/-! ## Commands -/

/-- The action of a command without arguments. -/
def simple? : Char → Option Action
  | '=' => some .number
  | 'd' => some .delete
  | 'D' => some .deleteLine
  | 'g' => some .fetch
  | 'G' => some .fetchMore
  | 'h' => some .hold
  | 'H' => some .holdMore
  | 'n' => some .next
  | 'N' => some .nextMore
  | 'p' => some .print
  | 'P' => some .printLine
  | 'x' => some .exchange
  | 'z' => some .empty
  | 'F' => some .fileName
  | _ => none

/-- Reads what a command does, behind its letter. -/
def draft (extended : Bool) (selection : Selection) (letter : Char) (rest : List Char) :
    Except ScriptFault (Draft × List Char) := do
  let ofText (f : String → Action) : Except ScriptFault (Draft × List Char) := do
    let (text, left) ← textArgument rest
    .ok (.action (f text), left)
  let ofFile (f : String → Action) : Except ScriptFault (Draft × List Char) := do
    let (path, left) ← fileOf rest
    .ok (.action (f path), left)
  let ofJump (made? : Option Bool) : Except ScriptFault (Draft × List Char) := do
    let (name, left) := labelOf rest
    .ok (.jump made? name, ← ended left)
  let ofQuit (prints : Bool) : Except ScriptFault (Draft × List Char) := do
    let (status, left) := number (skipBlanks rest)
    if selection.until?.isSome then fault "command only uses one address" rest
    else .ok (.action (.quit status prints), ← ended left)
  match letter with
  | '\x7b' => .ok (.opening, rest)
  | '\x7d' =>
    if selection.first?.isSome then fault "\x7d doesn't want any addresses" rest
    else .ok (.closing, ← ended rest)
  | 'a' => ofText .append
  | 'i' => ofText .insert
  | 'c' => ofText .change
  | 'r' => ofFile .read
  | 'R' => ofFile .readLine
  | 'w' => ofFile .write
  | 'W' => ofFile .writeLine
  | 'b' => ofJump none
  | 't' => ofJump (some true)
  | 'T' => ofJump (some false)
  | 'q' => ofQuit true
  | 'Q' => ofQuit false
  | ':' =>
    let (name, left) := labelOf rest
    if selection.first?.isSome then fault ": doesn't want any addresses" rest
    else if name = "" then fault "\":\" lacks a label" left
    else .ok (.label name, ← ended left)
  | 's' => do
    let (action, left) ← substitution extended rest
    .ok (.action action, left)
  | 'y' => do
    let (action, left) ← table rest
    .ok (.action action, left)
  | 'l' => do
    let (_, left) := number (skipBlanks rest)
    .ok (.action .show, ← ended left)
  | letter =>
    match simple? letter with
    | some action => .ok (.action action, ← ended rest)
    | none => fault ("unknown command: \x60" ++ String.singleton letter ++ "'") rest

/-- The number of open blocks behind a draft, if no block ends that has not begun. -/
def depthBehind? (depth : Nat) : Draft → Option Nat
  | .opening => some (depth + 1)
  | .closing => if depth = 0 then none else some (depth - 1)
  | _ => some depth

/-- Reads all commands; `depth` blocks are open. -/
def drafts (extended : Bool) (depth : Nat) (cs : List Char) :
    Except ScriptFault (List (Selection × Draft)) := do
  match cs.dropWhile fun c => c == ';' || c == ' ' || (c.toNat > 8 && c.toNat < 14) with
  | [] => .ok []
  | start :: others =>
    if start == '#' then
      let left := (lineOf others).2
      if _shorter : left.length < cs.length then drafts extended depth left else .ok []
    else
      let (found, rest) ← selection extended (start :: others)
      match rest with
      | [] => fault "missing command" []
      | letter :: rest =>
        let (draft, left) ← draft extended found letter rest
        match depthBehind? depth draft with
        | none => fault "unexpected \x60\x7d'" rest
        | some depth =>
          if _shorter : left.length < cs.length then
            return (found, draft) :: (← drafts extended depth left)
          else .ok [(found, draft)]
termination_by cs.length

/-- The place behind the end of the block that begins at a place, if it ends; `depth` blocks are
open. -/
def blockEnd? : (depth place : Nat) → List (Selection × Draft) → Option Nat
  | _, _, [] => none
  | depth, place, (_, .opening) :: rest => blockEnd? (depth + 1) (place + 1) rest
  | depth, place, (_, .closing) :: rest =>
    if depth = 0 then some place else blockEnd? (depth - 1) (place + 1) rest
  | depth, place, _ :: rest => blockEnd? depth (place + 1) rest

/-- The place of a label. -/
def labelPlace? (all : List (Selection × Draft)) (name : String) : Option Nat :=
  all.findIdx? fun
    | (_, .label other) => other = name
    | _ => false

/-- The command of a draft at a place, in front of others. -/
def complete (all : List (Selection × Draft)) (place : Nat) (draft : Draft)
    (rest : List (Selection × Draft)) : Except ScriptFault Action :=
  match draft with
  | .action action => .ok action
  | .label _ | .closing => .ok .nothing
  | .opening =>
    match blockEnd? 0 (place + 1) rest with
    | some finish => .ok (.block finish)
    | none => .error { message := "unmatched \x60\x7b'", left := 0, everywhere := true }
  | .jump made? name =>
    match if name = "" then some all.length else labelPlace? all name with
    | none => .error { message := "can't find label for jump to \x60" ++ name ++ "'", left := 0 }
    | some goal =>
      .ok (match made? with
        | none => .jump goal
        | some made => .jumpIf made goal)

/-- The commands of drafts from a place on. -/
def completeAll (all : List (Selection × Draft)) : (place : Nat) →
    List (Selection × Draft) → Except ScriptFault (List Command)
  | _, [] => .ok []
  | place, (selection, draft) :: rest => do
    let action ← complete all place draft rest
    return ⟨selection, action⟩ :: (← completeAll all (place + 1) rest)

/-- The parts of a script, each with what a message about it starts with. -/
abbrev ScriptParts := List (String × String)

/-- What is said about a fault at a place, counted in characters, of the parts of a script. -/
def faultText (message : String) : (place : Nat) → ScriptParts → String
  | _, [] => message
  | place, (about, text) :: rest =>
    if place ≤ text.length || rest.isEmpty then about ++ toString place ++ ": " ++ message
    else faultText message (place - text.length - 1) rest

/-- Reads a script; its parts stand on lines of their own. -/
def readScript (extended : Bool) (parts : ScriptParts) : Except String (List Command) :=
  let text := "\n".intercalate (parts.map (·.2))
  match drafts extended 0 text.toList with
  | .error found => .error (faultText found.message (text.length - found.left) parts)
  | .ok all =>
    match completeAll all 0 all with
    | .ok commands => .ok commands
    | .error found =>
      .error (if found.everywhere then faultText found.message 0 parts else found.message)

end SignatureAudit.Emulation.Utility.Edit
