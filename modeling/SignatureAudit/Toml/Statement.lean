import SignatureAudit.Toml.Scalar
import SignatureAudit.Toml.Text

/-!
# Statements of a TOML document

A document is a list of statements, one a line: a key with its value, the header of a table, or the
header of one more table of several. A key has fewer than 80 parts, and arrays and inline tables
stand inside each other less than 80 deep.
-/

namespace SignatureAudit.Toml

/-- A statement of a document. -/
inductive Statement
  /-- A key, with the names in front of its dots, and its value. -/
  | entry (path : List String) (key : String) (value : Toml)
  /-- The header of a table. -/
  | header (path : List String) (key : String)
  /-- The header of one more table of several. -/
  | item (path : List String) (key : String)
  deriving Repr

/-- How many parts a key may not have, and how deep brackets may not nest. -/
def depthLimit : Nat := 80

/-- A character of a key without quotes. -/
def isBare (c : Char) : Bool := c.isAlphanum || c == '_' || c == '-'

/-- Reads one part of a key. -/
def name? : (cs : List Char) → Option (String × Remainder cs)
  | [] => none
  | c :: rest =>
    if c = '"' then
      (basic? rest).map fun (text, left) => (String.ofList text, Remainder.tail.widen left)
    else if c = '\'' then
      (literal? rest).map fun (text, left) => (String.ofList text, Remainder.tail.widen left)
    else if isBare c then
      some (String.ofList (c :: rest.takeWhile isBare), Remainder.tail.dropWhile isBare)
    else none

/-- Reads the parts of a key, with the spaces around each of them. -/
def parts? (cs : List Char) : Option ((List String × String) × Remainder cs) := do
  let (name, left) ← name? (cs.dropWhile isSpace)
  let ⟨left, shorter⟩ := (left.dropWhile isSpace).behind isSpace
  match Remainder.after? '.' left with
  | some rest =>
    let ((path, key), last) ← parts? rest.val
    some ((name :: path, key), Remainder.widen ⟨left, shorter⟩ (rest.widen last))
  | none => some (([], name), ⟨left, shorter⟩)
termination_by cs.length
decreasing_by exact Nat.lt_trans rest.property shorter

/-- Reads a key. -/
def key? (cs : List Char) : Option ((List String × String) × Remainder cs) := do
  let ((path, key), left) ← parts? cs
  if path.length + 1 < depthLimit then some ((path, key), left) else none

/-- Reads a key and the equals sign behind it. -/
def assigned? (cs : List Char) : Option ((List String × String) × Remainder cs) := do
  let (key, left) ← key? cs
  some (key, left.widen (← Remainder.after? '=' left.val))

/-- A character of a scalar without quotes. -/
def isScalarChar (c : Char) : Bool :=
  !(isSpace c || c == '\n' || c == '\r' || c == ',' || c == ']' || c == '\x7d' || c == '#')

/-- Reads a scalar without quotes. A space may stand between a date and a time. -/
def bareScalar? : (cs : List Char) → Option (Toml × Remainder cs)
  | [] => none
  | c :: rest =>
    if !isScalarChar c then none
    else
      let word := c :: rest.takeWhile isScalarChar
      let left : Remainder (c :: rest) := Remainder.tail.dropWhile isScalarChar
      match left with
      | ⟨' ' :: digit :: more, shorter⟩ =>
        if (afterDate? word).isSome && digit.isDigit then do
          let value ← scalar? (word ++ ' ' :: digit :: more.takeWhile isScalarChar)
          some (value, Remainder.widen ⟨_, shorter⟩ (Remainder.tail.dropWhile isScalarChar))
        else (scalar? word).map (·, ⟨_, shorter⟩)
      | left => (scalar? word).map (·, left)

mutual

/-- Reads a value; `depth` tells how deep brackets may still nest. -/
def value? (depth : Nat) (cs : List Char) : Option (Toml × Remainder cs) :=
  match cs, depth with
  | '[' :: rest, depth + 1 => do
    let (items, left) ← items? depth rest
    some (.array items, Remainder.tail.widen left)
  | '\x7b' :: rest, depth + 1 => do
    match Remainder.first? isSpace rest with
    | some ('\x7d', left) => some (.table .inline [], Remainder.tail.widen left)
    | _ =>
      let (entries, left) ← entries? depth [] rest
      some (.table .inline entries, Remainder.tail.widen left)
  | cs, _ =>
    match string? cs with
    | some (text, left) => some (.string text, left)
    | none => bareScalar? cs
termination_by (cs.length, 0)

/-- Reads the items of an array, up to its closing bracket. A comma may stand behind the last. -/
def items? (depth : Nat) (cs : List Char) : Option (List Toml × Remainder cs) := do
  match Remainder.after? ']' (gap cs).val with
  | some last => some ([], last.within (gap cs).property)
  | none =>
    let (item, left) ← value? depth (gap cs).val
    let ⟨left, shorter⟩ := (left.shrink (gap left.val)).within (gap cs).property
    match Remainder.after? ']' left with
    | some last => some ([item], Remainder.widen ⟨left, shorter⟩ last)
    | none =>
      let next ← Remainder.after? ',' left
      let (items, last) ← items? depth next.val
      some (item :: items, Remainder.widen ⟨left, shorter⟩ (next.widen last))
termination_by (cs.length, 1)
decreasing_by
  · have := (gap cs).property
    exact Prod.lex_def.2 (by dsimp only; omega)
  · exact Prod.Lex.left _ _ (Nat.lt_trans next.property shorter)

/-- Reads the entries of an inline table, up to its closing brace, and adds them to `entries`. -/
def entries? (depth : Nat) (entries : Entries) (cs : List Char) :
    Option (Entries × Remainder cs) := do
  let ((path, key), left) ← assigned? cs
  let ⟨front, shorter⟩ := left.dropWhile isSpace
  let (value, left) ← value? depth front
  let entries ← assign value key path .inline entries
  let ⟨left, shorter⟩ := Remainder.widen ⟨front, shorter⟩ (left.dropWhile isSpace)
  match Remainder.after? '\x7d' left with
  | some last => some (entries, Remainder.widen ⟨left, shorter⟩ last)
  | none =>
    let next ← Remainder.after? ',' left
    let (entries, last) ← entries? depth entries next.val
    some (entries, Remainder.widen ⟨left, shorter⟩ (next.widen last))
termination_by (cs.length, 1)
decreasing_by
  · exact Prod.Lex.left _ _ shorter
  · exact Prod.Lex.left _ _ (Nat.lt_trans next.property shorter)

end

/-- Reads a key and its value behind it, up to the end of the line. -/
def entry? (cs : List Char) : Option (Statement × Remainder cs) := do
  let ((path, key), left) ← assigned? cs
  let ⟨front, shorter⟩ := left.dropWhile isSpace
  let (value, left) ← value? (depthLimit - 1) front
  let rest ← endOfLine? left.val
  some (.entry path key value, (Remainder.widen ⟨front, shorter⟩ left).shrink rest)

/-- Reads the statement at the front of a text, up to the end of its line. -/
def statement? (cs : List Char) : Option (Statement × Remainder cs) :=
  match cs with
  | '[' :: '[' :: rest => do
    let ((path, key), left) ← key? rest
    let first ← Remainder.after? ']' left.val
    let second ← Remainder.after? ']' first.val
    let last ← endOfLine? second.val
    some (.item path key,
      Remainder.tail.widen (Remainder.tail.widen (left.widen (first.widen (second.shrink last)))))
  | '[' :: rest => do
    let ((path, key), left) ← key? rest
    let closed ← Remainder.after? ']' left.val
    let last ← endOfLine? closed.val
    some (.header path key, Remainder.tail.widen (left.widen (closed.shrink last)))
  | cs => entry? cs

/-- Reads the statements of a document. -/
def statements? (cs : List Char) : Option (List Statement) :=
  match cs with
  | [] => some []
  | c :: rest =>
    if isSpace c then statements? rest
    else
      match lineEnd? (afterComment (c :: rest)) with
      | some left => statements? left.val
      | none =>
        if (afterComment (c :: rest)).isEmpty then some []
        else do
          let (statement, left) ← statement? (c :: rest)
          let statements ← statements? left.val
          some (statement :: statements)
termination_by cs.length
decreasing_by
  · simp
  · exact Nat.lt_of_lt_of_le left.property (afterComment_length_le _)
  · exact left.property

end SignatureAudit.Toml
