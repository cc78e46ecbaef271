import SignatureAudit.Emulation.Utility.Record.Script
import SignatureAudit.Emulation.Utility.Record.Token

/-!
# Reading scripts for records

Expressions are read by how strongly their signs bind: `climb` reads an operand and all signs behind
it that bind at least as strongly as asked for. Every function takes the number of steps that are
left to it; a token takes only a few, so that the number is never too small (`steps`).
-/

namespace SignatureAudit.Emulation.Utility.Record

/-- A reader takes tokens off the front of those that are left. -/
abbrev Reader := StateT (List (Token × Nat)) (Except Fault)

namespace Reader

/-- The next token, which stays. -/
def peek : Reader Token := do
  return ((← get).head?.map (·.1)).getD .newline

/-- Takes a token off. -/
def skip : Reader Unit := modify (List.drop 1)

/-- Fails at the next token. -/
def reject {α : Type} (message : String) : Reader α := do
  match (← get).head? with
  | some (_, line) => throw ⟨line, message⟩
  | none => throw ⟨0, "missing \x7d near end of file"⟩

/-- Fails because the next token cannot stand where it does. -/
def unexpected {α : Type} : Reader α := do
  reject ("syntax error at or near " ++ (← peek).spelling)

/-- Whether the next token is a sign. -/
def sees (sign : String) : Reader Bool := do return (← peek).isSign sign

/-- Takes a sign off, if it comes next. -/
def takes (sign : String) : Reader Bool := do
  if ← sees sign then
    skip
    pure true
  else pure false

/-- Takes a sign off, which has to come next. -/
def expect (sign : String) : Reader Unit := do
  if !(← takes sign) then
    if sign = ")" then reject ("missing ) near " ++ (← peek).spelling) else unexpected

/-- Takes a closing parenthesis off behind the test of a statement. -/
def expectClosing : Reader Unit := do
  if !(← takes ")") then unexpected

/-- Takes the ends of lines off. -/
def skipLines : Reader Unit := modify fun tokens => tokens.dropWhile (·.1.isNewline)

/-- Takes the ends of lines and of statements off. -/
def skipEnds : Reader Unit :=
  modify fun tokens => tokens.dropWhile fun (t, _) => t.isNewline || t.isSign ";"

/-- Takes the end of a statement off, which a closing brace need not have. -/
def endStatement : Reader Unit := do
  match ← peek with
  | .newline => skip
  | .sign ";" => skip
  | .sign "\x7d" => pure ()
  | _ => unexpected

/-- The name that comes next. -/
def name : Reader String := do
  match ← peek with
  | .name name =>
    skip
    pure name
  | _ => unexpected

end Reader

open Reader

/-- Where an expression stands, which takes the meaning of some signs away. -/
structure Place where
  /-- A greater sign leads the output to a file. -/
  inPrint : Bool := false
  /-- The word `in` belongs to a loop. -/
  inLoop : Bool := false

/-- The strength of a sign between two operands, and how strongly its second operand binds. -/
def strength? (place : Place) (t : Token) : Option (Nat × Nat) :=
  match t with
  | .keyword "in" => if place.inLoop then none else some (4, 5)
  | .sign s =>
    match s with
    | "?" => some (1, 1)
    | "||" => some (2, 3)
    | "&&" => some (3, 4)
    | "~" | "!~" => some (5, 6)
    | "<" | "<=" | "==" | "!=" | ">=" => some (6, 7)
    | ">" => if place.inPrint then none else some (6, 7)
    | "|" => some (6, 7)
    | "+" | "-" => some (8, 9)
    | "*" | "/" | "%" => some (9, 10)
    | "^" => some (11, 10)
    | _ => none
  | _ => none

/-- Whether a value can start with a token right behind another one. -/
def startsOperand (t : Token) : Bool :=
  match t with
  | .number .. | .text _ | .regex _ | .name _ | .function _ | .builtin _ => true
  | .sign s => s = "$" || s = "(" || s = "!" || s = "-" || s = "+" || s = "++" || s = "--"
  | _ => false

/-- Whether a value that stands right behind another one can start with a token. -/
def joins (t : Token) : Bool :=
  startsOperand t && !(t.isSign "+" || t.isSign "-" || t.isSign "!")

/-- The operation of an assignment, if a sign assigns. -/
def assignment? (t : Token) : Option (Option NumberOp) :=
  match t with
  | .sign s =>
    match s with
    | "=" => some none
    | "+=" => some (some .add)
    | "-=" => some (some .subtract)
    | "*=" => some (some .multiply)
    | "/=" => some (some .divide)
    | "%=" => some (some .remainder)
    | "^=" => some (some .power)
    | _ => none
  | _ => none

/-- Whether a value can be assigned to an expression. -/
def isTarget : Expr → Bool
  | .name _ | .element .. | .field _ => true
  | _ => false

/-- The expression of a sign between two operands. -/
def binary (sign : String) (a b : Expr) : Expr :=
  match sign with
  | "||" => .either a b
  | "&&" => .both a b
  | "~" => .fits true a b
  | "!~" => .fits false a b
  | "<" => .compare .less a b
  | "<=" => .compare .atMost a b
  | "==" => .compare .same a b
  | "!=" => .compare .differs a b
  | ">" => .compare .greater a b
  | ">=" => .compare .atLeast a b
  | "+" => .calculate .add a b
  | "-" => .calculate .subtract a b
  | "*" => .calculate .multiply a b
  | "/" => .calculate .divide a b
  | "%" => .calculate .remainder a b
  | _ => .calculate .power a b

/-- The numbers of arguments that a function can have. -/
def arities (function : String) : Nat × Nat :=
  match function with
  | "substr" | "split" | "sub" | "gsub" => (2, 3)
  | "index" | "match" | "atan2" => (2, 2)
  | "length" | "srand" | "fflush" => (0, 1)
  | "rand" | "systime" => (0, 0)
  | "sprintf" => (1, 1000)
  | "strftime" => (0, 3)
  | _ => (1, 1)

mutual

/-- Reads an expression with all signs that bind at least as strongly as asked for. -/
def climb (place : Place) : (steps : Nat) → (least : Nat) → Reader Expr
  | 0, _ => unexpected
  | steps + 1, least => do
    let first ← operand place steps
    further place steps least first

/-- Reads signs and operands behind a first operand. -/
def further (place : Place) : (steps : Nat) → (least : Nat) → Expr → Reader Expr
  | 0, _, _ => unexpected
  | steps + 1, least, first => do
    let t ← peek
    match strength? place t with
    | some (own, next) =>
      if own < least then pure first
      else
        match t with
        | .keyword _ => do
          skip
          let array ← name
          let items := match first with
            | .list items => items
            | item => [item]
          further place steps least (.isIn items array)
        | .sign "?" => do
          skip
          skipLines
          let yes ← climb place steps 1
          skipLines
          expect ":"
          skipLines
          let no ← climb place steps next
          further place steps least (.conditional first yes no)
        | .sign "|" => do
          if !((← get)[1]?.any (·.1.isKeyword "getline")) then pure first
          else
            skip
            skip
            let targets ← optionalTarget place steps
            further place steps least (.nextOfCommand first targets)
        | .sign s => do
          skip
          if s = "&&" || s = "||" then skipLines
          let second ← climb place steps next
          further place steps least (binary s first second)
        | _ => pure first
    | none =>
      if joins t && least ≤ 7 then do
        let second ← climb place steps 8
        further place steps least (.join first second)
      else pure first

/-- Reads a value to which something can be assigned, if one comes next. -/
def optionalTarget (place : Place) : (steps : Nat) → Reader (List Expr)
  | 0 => unexpected
  | steps + 1 => do
    match ← peek with
    | .name _ | .sign "$" => return [← primary place steps]
    | _ => pure []

/-- Reads an operand with the signs in front of it. -/
def operand (place : Place) : (steps : Nat) → Reader Expr
  | 0 => unexpected
  | steps + 1 => do
    match ← peek with
    | .sign "!" => do
      skip
      return .deny (← climb place steps 10)
    | .sign "-" => do
      skip
      return .negate (← climb place steps 10)
    | .sign "+" => do
      skip
      return .plus (← climb place steps 10)
    | .sign "++" => do
      skip
      return .step (← target place steps) true true
    | .sign "--" => do
      skip
      return .step (← target place steps) false true
    | _ => do
      let first ← primary place steps
      let t ← peek
      match assignment? t with
      | some op? =>
        if !isTarget first then unexpected
        else do
          skip
          skipLines
          return .assign first op? (← climb place steps 1)
      | none =>
        if isTarget first && t.isSign "++" then do
          skip
          pure (.step first true false)
        else if isTarget first && t.isSign "--" then do
          skip
          pure (.step first false false)
        else pure first

/-- Reads a value to which something can be assigned. -/
def target (place : Place) : (steps : Nat) → Reader Expr
  | 0 => unexpected
  | steps + 1 => do
    let found ← primary place steps
    if isTarget found then pure found else unexpected

/-- Reads an operand without signs around it. -/
def primary (place : Place) : (steps : Nat) → Reader Expr
  | 0 => unexpected
  | steps + 1 => do
    match ← peek with
    | .number value _ => do
      skip
      pure (.number value)
    | .text text => do
      skip
      pure (.text text)
    | .regex text =>
      match regexOf text with
      | .ok regex => do
        skip
        pure (.regex regex)
      | .error fault =>
        reject ("regular expression compile failed (" ++ fault.message ++ ")\n" ++ text)
    | .sign "$" => do
      skip
      match ← peek with
      | .sign "++" | .sign "--" | .sign "-" | .sign "+" | .sign "!" =>
        return .field (← operand place steps)
      | _ => return .field (← primary place steps)
    | .sign "(" => do
      skip
      let items ← items steps
      expect ")"
      match items with
      | [item] => pure (.list [item])
      | items => pure (.list items)
    | .sign "-" | .sign "+" | .sign "!" => operand place steps
    | .name name => do
      skip
      if ← takes "[" then
        let subscripts ← items steps
        expect "]"
        pure (.element name subscripts)
      else pure (.name name)
    | .function name => do
      skip
      let arguments ← if ← sees ")" then pure [] else items steps
      expect ")"
      pure (.call name arguments)
    | .builtin name => do
      skip
      let arguments ← if ← takes "(" then
          let arguments ← if ← sees ")" then pure [] else items steps
          expect ")"
          pure arguments
        else if name = "length" then pure []
        else unexpected
      let (least, most) := arities name
      if arguments.length < least || most < arguments.length then
        reject ("wrong number of arguments in call to " ++ name)
      else pure (.builtin name arguments)
    | .keyword "getline" => do
      skip
      let targets ← optionalTarget place steps
      if ← takes "<" then
        return .nextOfFile (← primary place steps) targets
      else pure (.next targets)
    | _ => unexpected

/-- Reads expressions with commas between them. -/
def items : (steps : Nat) → Reader (List Expr)
  | 0 => unexpected
  | steps + 1 => do
    skipLines
    let first ← climb {} steps 1
    skipLines
    if ← takes "," then
      return first :: (← items steps)
    else pure [first]

end

/-- The number of steps that are enough for some tokens. -/
def steps (tokens : List (Token × Nat)) : Nat := 12 * tokens.length + 60

/-- Reads an expression. -/
def expression (place : Place) : Reader Expr := do climb place (steps (← get)) 1

/-! ## Statements -/

/-- Reads expressions with commas between them; the bound is that of their number. -/
def expressions (place : Place) : (bound : Nat) → Reader (List Expr)
  | 0 => unexpected
  | bound + 1 => do
    let first ← expression place
    if ← takes "," then
      skipLines
      return first :: (← expressions place bound)
    else pure [first]

/-- Reads where something is printed. -/
def outlet : Reader Outlet := do
  let path : Reader Expr := expression {}
  if ← takes ">" then return .file (← path) false
  else if ← takes ">>" then return .file (← path) true
  else if ← takes "|" then return .command (← path)
  else pure .standard

/-- Reads what is printed, and where. -/
def printed : Reader (List Expr × Outlet) := do
  match ← peek with
  | .newline | .sign ";" | .sign "\x7d" | .sign ">" | .sign ">>" | .sign "|" =>
    return ([], ← outlet)
  | _ => do
    let found ← expressions { inPrint := true } (steps (← get))
    let found := match found with
      | [.list items] => items
      | found => found
    return (found, ← outlet)

/-- Reads a statement on one line, without its end. -/
def simple (place : Place) : Reader Statement := do
  let optional : Reader (Option Expr) := do
    match ← peek with
    | .newline | .sign ";" | .sign "\x7d" => pure none
    | _ => some <$> expression {}
  match ← peek with
  | .keyword "print" => do
    skip
    let (arguments, outlet) ← printed
    pure (.print arguments outlet)
  | .keyword "printf" => do
    skip
    let (arguments, outlet) ← printed
    if arguments.isEmpty then unexpected else pure (.format arguments outlet)
  | .keyword "next" => do
    skip
    pure .next
  | .keyword "nextfile" => do
    skip
    pure .nextFile
  | .keyword "exit" => do
    skip
    return .exit (← optional)
  | .keyword "return" => do
    skip
    return .give (← optional)
  | .keyword "break" => do
    skip
    pure .leave
  | .keyword "continue" => do
    skip
    pure .goOn
  | .keyword "delete" => do
    skip
    let array ← name
    if ← takes "[" then
      let subscripts ← items (steps (← get))
      expect "]"
      pure (.delete array subscripts)
    else pure (.delete array [])
  | _ => return .value (← expression place)

mutual

/-- Reads a statement with its end. -/
def statement : (steps : Nat) → Reader Statement
  | 0 => unexpected
  | steps + 1 => do
    match ← peek with
    | .sign "\x7b" => do
      skip
      let found ← statements steps
      expect "\x7d"
      pure (.block found)
    | .sign ";" => do
      skip
      pure (.block [])
    | .keyword "if" => do
      skip
      expect "("
      let test ← expression {}
      expectClosing
      skipLines
      let yes ← statement steps
      let before ← get
      skipEnds
      if (← peek).isKeyword "else" then
        skip
        skipLines
        return .conditional test yes (some (← statement steps))
      else
        set before
        pure (.conditional test yes none)
    | .keyword "while" => do
      skip
      expect "("
      let test ← expression {}
      expectClosing
      if (← peek).isSign ";" then
        skip
        pure (.loop test (.block []))
      else
        skipLines
        return .loop test (← statement steps)
    | .keyword "do" => do
      skip
      skipLines
      let body ← statement steps
      skipEnds
      if !(← peek).isKeyword "while" then unexpected
      else
        skip
        expect "("
        let test ← expression {}
        expectClosing
        endStatement
        pure (.loopOnce body test)
    | .keyword "for" => do
      skip
      expect "("
      loopHead steps
    | _ => do
      let found ← simple {}
      endStatement
      pure found

/-- Reads a loop behind its opening parenthesis. -/
def loopHead : (steps : Nat) → Reader Statement
  | 0 => unexpected
  | steps + 1 => do
    match (← get).take 4 with
    | [(.name item, _), (.keyword "in", _), (.name array, _), (.sign ")", _)] => do
      modify (List.drop 4)
      skipLines
      return .each item array (← statement steps)
    | _ => do
      let first? ← if ← sees ";" then pure none else some <$> simple {}
      expect ";"
      skipLines
      let test? ← if ← sees ";" then pure none else some <$> expression {}
      expect ";"
      skipLines
      let next? ← if ← sees ")" then pure none else some <$> simple {}
      expectClosing
      if ← takes ";" then pure (.count first? test? next? (.block []))
      else
        skipLines
        return .count first? test? next? (← statement steps)

/-- Reads statements up to a closing brace. -/
def statements : (steps : Nat) → Reader (List Statement)
  | 0 => unexpected
  | steps + 1 => do
    skipEnds
    if ← sees "\x7d" then pure []
    else if (← get).isEmpty then unexpected
    else
      let first ← statement steps
      return first :: (← statements steps)

end

/-! ## Scripts -/

/-- Reads a block of statements. -/
def body : Reader Statement := do
  match ← peek with
  | .sign "\x7b" => statement (steps (← get))
  | _ => unexpected

/-- Reads the parameters of a function from the first one on; the bound is that of their number. -/
def parameters : (bound : Nat) → Reader (List String)
  | 0 => unexpected
  | bound + 1 => do
    match ← peek with
    | .name found => do
      skip
      skipLines
      if ← takes "," then
        skipLines
        return found :: (← parameters bound)
      else if ← takes ")" then pure [found]
      else unexpected
    | _ => unexpected

/-- A part of a script. -/
inductive Part
  | rule (rule : Rule)
  | function (function : Function)

/-- Reads a part of a script. -/
def part : Reader Part := do
  match ← peek with
  | .keyword "function" => do
    skip
    let found ← match ← peek with
      | .name found => do
        skip
        expect "("
        pure found
      | .function found => do
        skip
        pure found
      | _ => unexpected
    skipLines
    let parameters ← if ← takes ")" then pure [] else parameters (steps (← get))
    skipLines
    return .function ⟨found, parameters, ← body⟩
  | .keyword "BEGIN" => do
    skip
    return .rule ⟨.start, some (← body)⟩
  | .keyword "END" => do
    skip
    return .rule ⟨.finish, some (← body)⟩
  | .sign "\x7b" => return .rule ⟨.always, some (← body)⟩
  | _ => do
    let first ← expression {}
    let pattern ← if ← takes "," then do
        skipLines
        pure (Pattern.range first (← expression {}))
      else pure (.test first)
    if ← sees "\x7b" then return .rule ⟨pattern, some (← body)⟩
    else
      if (← peek).isSign "\x7d" then reject "extra '\x7d'"
      pure (.rule ⟨pattern, none⟩)

/-- Reads all parts of a script; the bound is that of their number. -/
def parts : (bound : Nat) → Reader (List Part)
  | 0 => unexpected
  | bound + 1 => do
    skipEnds
    if (← get).isEmpty then pure []
    else
      let first ← part
      return first :: (← parts bound)

/-- The names that tokens use for arrays in a way that leaves no doubt. -/
def surelyArrays : List Token → List String
  | .name array :: .sign "[" :: rest => array :: surelyArrays (.sign "[" :: rest)
  | .keyword "in" :: .name array :: rest => array :: surelyArrays rest
  | .keyword "delete" :: .name array :: rest => array :: surelyArrays (.name array :: rest)
  | _ :: rest => surelyArrays rest
  | [] => []

/-- The arrays into which texts are split. -/
def splitArrays : (inSplit : Nat) → List Token → List String
  | inSplit, .builtin "split" :: rest => splitArrays (inSplit + 1) rest
  | inSplit, .sign "," :: .name array :: rest =>
    if 0 < inSplit then array :: splitArrays (inSplit - 1) rest
    else splitArrays inSplit rest
  | inSplit, _ :: rest => splitArrays inSplit rest
  | _, [] => []

/-- Reads a script. -/
def read (text : String) : Except Fault Script := do
  let found ← tokens text
  let last := (found.getLast?.map (·.2)).getD 1
  let (all, _) ← ((parts (steps found)).run found).mapError fun f =>
    if f.line = 0 then { f with line := last + 1 } else f
  let plain := found.map (·.1)
  .ok {
    rules := all.filterMap fun
      | .rule rule => some rule
      | .function _ => none
    functions := all.filterMap fun
      | .function function => some function
      | .rule _ => none
    arrays := surelyArrays plain ++ splitArrays 0 plain }

end SignatureAudit.Emulation.Utility.Record
