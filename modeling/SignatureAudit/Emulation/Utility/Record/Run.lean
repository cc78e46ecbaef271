import SignatureAudit.Emulation.Utility.Record.Operation
import SignatureAudit.Emulation.Utility.Record.Reader

/-!
# Running scripts for records

The value of an expression and the effect of a statement follow their structure. A function is run
through an `Inner`, which knows how many calls may still be inside each other; a loop has a limited
number of rounds, and a script that is still in one counts as one that never ends.
-/

namespace SignatureAudit.Emulation.Utility.Record

open Shell (Running Starting)
open Work

/-- What expressions and statements need from outside. -/
structure Inner where
  script : Script
  start : Starting
  /-- Runs a function. -/
  call : String → List Local → Work Cell

/-- A place to which a value can be assigned. -/
inductive Slot
  | name (name : String)
  | element (key index : String)
  | field (index : Nat)

/-- The value at a place. -/
def Slot.value : Slot → Work Cell
  | .name n => Work.value n
  | .element key index => Work.element key index
  | .field index => Work.field index

/-- Puts a value at a place. -/
def Slot.set (slot : Slot) (cell : Cell) : Work Unit :=
  match slot with
  | .name n => setValue n cell
  | .element key index => setElement key index cell
  | .field index => setField index cell

/-- The elements of an array that a text is split into. -/
def splitInto (key : String) (parts : List String) : Work Cell := do
  setElements key ((parts.zipIdx 1).map fun (part, n) => (toString n, .ofInput part)).reverse
  pure (.ofNat parts.length)

/-- Whether a name stands for an array. -/
def isArray (inner : Inner) (name : String) : Work Bool := do
  match (← get).locals.lookup name with
  | some (.array _) => pure true
  | some (.value .unset) => pure (inner.script.arrays.contains name)
  | some (.value _) => pure false
  | none => pure (inner.script.arrays.contains name)

/-- What is known after a record was asked for: one for a record, zero for the end. -/
def answer (found? : Option (Option String)) (use : String → Work Unit) : Work Cell := do
  match found? with
  | some (some record) => do
    use record
    pure (.number 1)
  | some none => pure (.number 0)
  | none => pure (.number (-1))

/-- Counts a record. -/
def countRecord : Work Unit := do setGlobal "NR" (.number ((← global "NR").toNumber + 1))

/-- The regular expression that an argument means, of which the value may be asked for. -/
def regexArgument (argument : Expr) (value : Work Cell) : Work Regex := do
  match argument with
  | .regex r => pure r
  | _ => dynamicRegex (← value)

/-- Replaces what a regular expression fits at a place. -/
def substitute (everywhere : Bool) (regex : Regex) (replacement : Cell) (slot : Slot) :
    Work Cell := do
  let replacement ← asText replacement
  let text ← asText (← slot.value)
  let (new, count) := replaced everywhere regex replacement text
  if 0 < count then slot.set (.text new)
  pure (.ofNat count)

mutual

/-- The value of an expression. -/
def eval (inner : Inner) : Expr → Work Cell
  | .number x => pure (.number x)
  | .text t => pure (.text t)
  | .regex r => do return .ofTruth (Regex.occurs (readingOf (← get).record) r)
  | .name n => Work.value n
  | .element array subscripts => do
    let index ← indexOf (← evalAll inner subscripts)
    Work.element (← arrayKey array) index
  | .field index => do
    let n := truncated (← eval inner index).toNumber
    if n < 0 then Work.fail ("run time error: negative field index $" ++ toString n)
    else Work.field n.toNat
  | .assign target op? value => do
    let cell ← eval inner value
    let slot ← slotOf inner target
    let cell ← match op? with
      | none => pure cell
      | some op => do
        let old ← slot.value
        pure (.number (op.result old.toNumber cell.toNumber))
    slot.set cell
    pure cell
  | .conditional test yes no => do
    if (← eval inner test).isTrue then eval inner yes else eval inner no
  | .both first second => do
    if (← eval inner first).isTrue then
      let second ← eval inner second
      pure (.ofTruth second.isTrue)
    else pure (.ofTruth false)
  | .either first second => do
    if (← eval inner first).isTrue then pure (.ofTruth true)
    else
      let second ← eval inner second
      pure (.ofTruth second.isTrue)
  | .deny e => do return .ofTruth (!(← eval inner e).isTrue)
  | .isIn subscripts array => do
    let index ← indexOf (← evalAll inner subscripts)
    let entries ← elements (← arrayKey array)
    pure (.ofTruth (entries.any (·.1 = index)))
  | .fits wanted subject pattern => do
    let text ← asText (← eval inner subject)
    let regex ← regexArgument pattern (eval inner pattern)
    pure (.ofTruth (Regex.occurs (readingOf text) regex == wanted))
  | .calculate op first second => do
    let a ← eval inner first
    let b ← eval inner second
    pure (.number (op.result a.toNumber b.toNumber))
  | .compare c first second => do
    let a ← eval inner first
    let b ← eval inner second
    return .ofTruth (← compareCells c a b)
  | .join first second => do
    let a ← eval inner first
    let b ← eval inner second
    return .text ((← asText a) ++ (← asText b))
  | .negate e => do return .number (-(← eval inner e).toNumber)
  | .plus e => do return .number (← eval inner e).toNumber
  | .step target up first => do
    let slot ← slotOf inner target
    let old := (← slot.value).toNumber
    let new := stepped up old
    slot.set (.number new)
    pure (.number (if first then new else old))
  | .call function arguments => do inner.call function (← passed inner arguments)
  | .builtin function arguments =>
    match function, arguments with
    | "length", [.name n] => do
      if ← isArray inner n then return .ofNat (← elements (← arrayKey n)).length
      else return .ofNat (← asText (← Work.value n)).length
    | "split", text :: .name array :: separators => do
      let text ← asText (← eval inner text)
      let separator ← match separators with
        | [] => do separatorOf (← globalText "FS")
        | .regex r :: _ => pure (.regex r)
        | e :: _ => do separatorOf (← asText (← eval inner e))
      splitInto (← arrayKey array) (separator.split false text)
    | "match", [text, pattern] => do
      let text ← asText (← eval inner text)
      let regex ← regexArgument pattern (eval inner pattern)
      let (place, length) := match Regex.search? (readingOf text) regex 0 with
        | some f => ((f.start : Int) + 1, ((f.finish - f.start : Nat) : Int))
        | none => (0, -1)
      setGlobal "RSTART" (.number (Float.ofInt place))
      setGlobal "RLENGTH" (.number (Float.ofInt length))
      pure (.number (Float.ofInt place))
    | "sub", pattern :: replacement :: targets => do
      let regex ← regexArgument pattern (eval inner pattern)
      let replacement ← eval inner replacement
      substitute false regex replacement (← optionalSlot inner targets)
    | "gsub", pattern :: replacement :: targets => do
      let regex ← regexArgument pattern (eval inner pattern)
      let replacement ← eval inner replacement
      substitute true regex replacement (← optionalSlot inner targets)
    | function, arguments => do applyFunction inner.start function (← evalAll inner arguments)
  | .next targets => do
    let found? ← takeRecord
    answer (some found?) (← receiver inner targets)
  | .nextOfFile file targets => do
    let path ← asText (← eval inner file)
    let found? ← nextOfSource path (fileText? path)
    answer found? (← receiver inner targets)
  | .nextOfCommand command targets => do
    let text ← asText (← eval inner command)
    let found? ← nextOfSource text (commandText inner.start text)
    let receive ← receiver inner targets
    answer found? fun record => do
      receive record
      countRecord
  | .list items => do
    let cells ← evalAll inner items
    match cells with
    | [cell] => pure cell
    | cells => return .text (← indexOf cells)

/-- The values of expressions. -/
def evalAll (inner : Inner) : List Expr → Work (List Cell)
  | [] => pure []
  | e :: rest => do
    let first ← eval inner e
    return first :: (← evalAll inner rest)

/-- What is passed to a function: arrays themselves, and values. -/
def passed (inner : Inner) : List Expr → Work (List Local)
  | [] => pure []
  | .name n :: rest => do
    let first : Local ← if ← isArray inner n then do pure (Local.array (← arrayKey n))
      else do
        match ← Work.value n with
        | .unset => do
          match (← get).locals.lookup n with
          | none => pure (Local.array n)
          | some _ => pure (Local.array (← arrayKey n))
        | cell => pure (Local.value cell)
    return first :: (← passed inner rest)
  | e :: rest => do
    let first ← eval inner e
    return .value first :: (← passed inner rest)

/-- The place that an expression means. -/
def slotOf (inner : Inner) : Expr → Work Slot
  | .name n => pure (.name n)
  | .element array subscripts => do
    let index ← indexOf (← evalAll inner subscripts)
    return .element (← arrayKey array) index
  | .field index => do
    let n := truncated (← eval inner index).toNumber
    if n < 0 then Work.fail ("run time error: negative field index $" ++ toString n)
    else pure (.field n.toNat)
  | .list [e] => slotOf inner e
  | _ => pure (.name "")

/-- The place that is meant, which is the record if none is given. -/
def optionalSlot (inner : Inner) : List Expr → Work Slot
  | [] => pure (.field 0)
  | target :: _ => slotOf inner target

/-- What is done with a record that was asked for. -/
def receiver (inner : Inner) : List Expr → Work (String → Work Unit)
  | [] => pure cutRecord
  | target :: _ => do
    let slot ← slotOf inner target
    pure fun record => slot.set (.ofInput record)

end

end SignatureAudit.Emulation.Utility.Record
