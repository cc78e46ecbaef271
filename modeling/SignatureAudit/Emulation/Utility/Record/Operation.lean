import SignatureAudit.Emulation.Utility.Record.Store

/-!
# Operations of scripts for records

The operations on values: calculations, comparisons, replacements, and the functions that every
script knows.
-/

namespace SignatureAudit.Emulation.Utility.Record

open Shell (Running Machine Starting)
open Work

/-! ## Operations -/

/-- The result of an operation on numbers. -/
def NumberOp.result (op : NumberOp) (a b : Float) : Float :=
  match op with
  | .add => a + b
  | .subtract => a - b
  | .multiply => a * b
  | .divide => a / b
  | .remainder =>
    let quotient := a / b
    a - b * (if quotient < 0 then quotient.ceil else quotient.floor)
  | .power => Float.pow a b

/-- Whether a comparison holds when values are in an order. -/
def Comparison.holds (c : Comparison) (order : Ordering) : Bool :=
  match c with
  | .less => order == .lt
  | .atMost => order != .gt
  | .same => order == .eq
  | .differs => order != .eq
  | .greater => order == .gt
  | .atLeast => order != .lt

/-- Compares two values. -/
def compareCells (c : Comparison) (a b : Cell) : Work Bool := do
  if a.isNumeric && b.isNumeric then
    let x := a.toNumber
    let y := b.toNumber
    let order : Ordering := if x < y then .lt else if x == y then .eq else .gt
    pure (c.holds order)
  else return c.holds (compare (← asText a) (← asText b))

/-- The expression that a value writes. -/
def dynamicRegex (cell : Cell) : Work Regex := do
  let text ← asText cell
  match regexOf text with
  | .ok regex => pure regex
  | .error fault =>
    Work.fail ("regular expression compile failed (" ++ fault.message ++ ")\n" ++ text)

/-- How a text is read by expressions. -/
def readingOf (text : String) : Regex.Reading := { text := text.toList.toArray }

/-- The text that replaces a part. -/
def replacementOf (part : List Char) : List Char → List Char
  | '\\' :: '&' :: rest => '&' :: replacementOf part rest
  | '\\' :: '\\' :: rest => '\\' :: replacementOf part rest
  | '&' :: rest => part ++ replacementOf part rest
  | c :: rest => c :: replacementOf part rest
  | [] => []

/-- A text in which parts have been replaced, and their number. -/
def replaced (everywhere : Bool) (regex : Regex) (replacement text : String) : String × Nat :=
  let r := readingOf text
  let found := Regex.all r regex
  let found := if everywhere then found else found.take 1
  let step (s : List String × Nat) (f : Found) : List String × Nat :=
    let part := replacementOf (r.text.extract f.start f.finish).toList replacement.toList
    (String.ofList part :: Regex.part r s.2 f.start :: s.1, f.finish)
  let (parts, behind) := found.foldl step ([], 0)
  (String.join (Regex.part r behind r.text.size :: parts).reverse, found.length)

/-- A part of a text, given by its first place, counted from one, and its length. -/
def partOf (text : String) (first : Float) (length? : Option Float) : String :=
  let first := truncated first
  let behind : Int := match length? with
    | some length => first + truncated length
    | none => text.length + 1
  let low := (max first 1).toNat
  String.ofList ((text.toList.drop (low - 1)).take (behind - (low : Int)).toNat)

/-- What the place of a text in another is, counted from one. -/
def placeOf (text part : String) : Nat :=
  let cs := text.toList
  ((List.range (cs.length + 1)).find? fun n => part.toList.isPrefixOf (cs.drop n)).elim 0 (· + 1)

/-- The functions of one number. -/
def numberFunction? (name : String) : Option (Float → Float) :=
  match name with
  | "sin" => some Float.sin
  | "cos" => some Float.cos
  | "exp" => some Float.exp
  | "log" => some Float.log
  | "sqrt" => some Float.sqrt
  | "int" => some fun x => if x < 0 then x.ceil else x.floor
  | _ => none

/-- The functions of one text. -/
def textFunction? (name : String) : Option (String → String) :=
  match name with
  | "tolower" => some String.toLower
  | "toupper" => some String.toUpper
  | _ => none

/-- The message about a format that lacks arguments. -/
def lacksArguments (function format : String) : Work String := do
  let part (name : String) : Work String := globalText name
  return "run time error: not enough arguments passed to " ++ function ++ "(\"" ++ format
    ++ "\")\n\tFILENAME=\"" ++ (← part "FILENAME") ++ "\" FNR="
    ++ toString (truncated (← global "FNR").toNumber)
    ++ " NR=" ++ toString (truncated (← global "NR").toNumber)

/-- Values in a format, and why the script cannot go on behind them, if it cannot. -/
def formatCells (function : String) : List Cell → Work (String × Option String)
  | [] => pure ("", none)
  | format :: arguments => do
    let format ← asText format
    match formatted (← conversion) format.toList arguments with
    | (text, true) => pure (text, none)
    | (text, false) => do pure (text, some (← lacksArguments function format))

/-- The index that subscripts write. -/
def indexOf (subscripts : List Cell) : Work String := do
  let texts ← subscripts.mapM asText
  return (← globalText "SUBSEP").intercalate texts

/-- A value and one more or less. -/
def stepped (up : Bool) (x : Float) : Float := if up then x + 1 else x - 1

/-- Calls a function whose arguments are given. -/
def applyFunction (start : Starting) (name : String) (arguments : List Cell) : Work Cell := do
  match numberFunction? name, textFunction? name, arguments with
  | some f, _, [x] => pure (.number (f x.toNumber))
  | _, some f, [text] => return .text (f (← asText text))
  | _, _, _ =>
    match name, arguments with
    | "length", [text] => return .ofNat (← asText text).length
    | "length", _ => return .ofNat (← get).record.length
    | "substr", text :: first :: rest =>
      return .text (partOf (← asText text) first.toNumber (rest.head?.map Cell.toNumber))
    | "index", [text, part] => return .ofNat (placeOf (← asText text) (← asText part))
    | "sprintf", arguments => do
      match ← formatCells "sprintf" arguments with
      | (text, none) => pure (.text text)
      | (_, some message) => Work.fail message
    | "atan2", [y, x] => pure (.number (Float.atan2 y.toNumber x.toNumber))
    | "close", [name] => return .number (← close start (← asText name))
    | "system", [text] => do
      let pipes := (← get).pipes
      closeAll start pipes
      modify fun s => { s with pipes := [] }
      return .ofNat (← lift (command start (← asText text)))
    | "rand", _ => do
      let seed := ((← get).seed * 1103515245 + 12345) % 2147483648
      modify fun s => { s with seed }
      pure (.number (seed.toFloat / 2147483648.0))
    | "srand", arguments => do
      let old := (← get).seed
      let seed := (truncated ((arguments.head?.map Cell.toNumber).getD 0)).natAbs
      modify fun s => { s with seed }
      pure (.ofNat old)
    | _, _ => pure (.number 0)

/-- The next record of a source, of which the text is asked for when it is met first: nothing if
there is no text, and an empty answer at its end. -/
def nextOfSource (name : String) (text? : Work (Option String)) :
    Work (Option (Option String)) := do
  let left? ← match (← get).sources.lookup name with
    | some left => pure (some left)
    | none => do pure ((← text?).map String.toList)
  match left? with
  | none => pure none
  | some left =>
    match (← recordEnd).take? left with
    | some (record, rest) => do
      modify fun s => { s with sources := put name rest s.sources }
      pure (some (some record))
    | none => do
      modify fun s => { s with sources := put name [] s.sources }
      pure (some none)

/-- The text of a file, if there is one. -/
def fileText? (path : String) : Work (Option String) := do
  match ← lift (Utility.textOf (if path = "/dev/stdin" then "-" else path)) with
  | .ok text => pure (some text)
  | .error _ => pure none

/-- What a command prints. -/
def commandText (start : Starting) (text : String) : Work (Option String) := do
  let (printed, _) ← lift (Running.capturing (command start text))
  pure (some printed)

end SignatureAudit.Emulation.Utility.Record
