import SignatureAudit.Emulation.Shell.Program

/-!
# Reading shell scripts

A script is read and run one complete command after the other: lines up to one that ends outside
every structure. So the commands in front of a fault run before it is reported, which is why
`Script.read` answers the commands up to the first fault together with the fault.
-/

namespace SignatureAudit.Emulation.Shell

/-- What is wrong with the syntax of a script. -/
inductive Misread
  /-- A token stands where another could, which is told if it is the only one. -/
  | unexpected (token : String) (expecting : Option String)
  | unclosed (unclosed : Unclosed)
  | loopVariable
  | functionName
  deriving DecidableEq, Repr

/-- The wording of a fault. -/
def Misread.message : Misread → String
  | .unexpected token none => token ++ " unexpected"
  | .unexpected token (some other) => token ++ " unexpected (expecting " ++ other ++ ")"
  | .unclosed .quotes => "Unterminated quoted string"
  | .unclosed .backquotes => "EOF in backquote substitution"
  | .unclosed .braces => "Missing '\x7d'"
  | .unclosed .arithmetic => "Missing '))'"
  | .unclosed .substitution => "end of file unexpected (expecting \")\")"
  | .loopVariable => "Bad for loop variable"
  | .functionName => "Bad function name"

/-- A fault and the line on which it shows. -/
structure SyntaxFault where
  line : Nat
  cause : Misread
  deriving DecidableEq, Repr

/-- A list of tokens that have not been read yet. -/
abbrev Lexemes := List Lexeme

/-- What reading answers: a part of a script and the tokens that follow it. -/
abbrev Reading (α : Type) (tokens : Lexemes) := Except SyntaxFault (α × Remainder tokens)

/-- Words with a meaning of their own where a command can start. -/
def reserved : List String :=
  ["!", "case", "do", "done", "elif", "else", "esac", "fi", "for", "if", "in", "then", "until",
   "while", "\x7b", "\x7d"]

/-- The reserved words that end a list of commands. -/
def closers : List String := ["do", "done", "elif", "else", "esac", "fi", "then", "\x7d"]

/-- Text in quotation marks. -/
def inQuotes (text : String) : String := "\"" ++ text ++ "\""

/-- What a message calls a mark. -/
def Mark.describe : Mark → String
  | .lineEnd => "newline"
  | .semicolon => inQuotes ";"
  | .branchEnd => inQuotes ";;"
  | .background => inQuotes "&"
  | .both => inQuotes "&&"
  | .either => inQuotes "||"
  | .bar => inQuotes "|"
  | .opening => inQuotes "("
  | .closing => inQuotes ")"
  | .finish => "end of file"

namespace Token

/-- The reserved word that a token is. -/
def reserved? (t : Token) : Option String := t.bare?.filter Shell.reserved.contains

/-- Whether a token is the end of the text. -/
def endsText (t : Token) : Bool :=
  match t with
  | .mark m => m == .finish
  | _ => false

/-- Whether a list of commands ends in front of a token. -/
def endsList (t : Token) : Bool :=
  match t with
  | .mark m => m == .finish || m == .closing || m == .branchEnd
  | _ => (t.reserved?.map closers.contains).getD false

/-- What a message calls a token; where no command can start there are no reserved words. -/
def describe (t : Token) (starts : Bool) : String :=
  match t with
  | .word _ => if starts then (t.reserved?.map inQuotes).getD "word" else "word"
  | .redirect .. | .document .. => "redirection"
  | .mark m => m.describe
  | .unclosed _ => "end of file"

end Token

/-- The fault of a token that is not expected. -/
def unexpected {α : Type} (tokens : Lexemes) (expecting : Option String) (starts : Bool := true) :
    Except SyntaxFault α :=
  match tokens with
  | [] => .error ⟨1, .unexpected "end of file" expecting⟩
  | ⟨.unclosed unclosed, line⟩ :: _ => .error ⟨line, .unclosed unclosed⟩
  | ⟨token, line⟩ :: _ => .error ⟨line, .unexpected (token.describe starts) expecting⟩

/-- What follows line ends. -/
def afterLineEnds (tokens : Lexemes) : Leftover tokens :=
  ⟨tokens.dropWhile fun l => l.token matches .mark .lineEnd, (List.dropWhile_sublist _).length_le⟩

/-- What follows a mark, if it is there. -/
def afterMark? (mark : Mark) : (tokens : Lexemes) → Option (Remainder tokens)
  | ⟨.mark m, _⟩ :: _ => if m = mark then some .tail else none
  | _ => none

/-- What follows a mark. -/
def expectMark (mark : Mark) (tokens : Lexemes) : Except SyntaxFault (Remainder tokens) :=
  match afterMark? mark tokens with
  | some left => .ok left
  | none => unexpected tokens (some mark.describe)

/-- What follows a mark or what is there without it. -/
def skipMark (mark : Mark) (tokens : Lexemes) : Leftover tokens :=
  match afterMark? mark tokens with
  | some left => left.toLeftover
  | none => .all

/-- What follows a reserved word, if it is there. -/
def afterWord? (text : String) : (tokens : Lexemes) → Option (Remainder tokens)
  | l :: _ => if l.token.bare? == some text then some .tail else none
  | [] => none

/-- What follows a reserved word. -/
def expectWord (text : String) (tokens : Lexemes) : Except SyntaxFault (Remainder tokens) :=
  match afterWord? text tokens with
  | some left => .ok left
  | none => unexpected tokens (some (inQuotes text))

/-- The line of the next token. -/
def lineOf : Lexemes → Nat
  | [] => 1
  | l :: _ => l.line

/-- Reads a word that has to be there. -/
def word : (tokens : Lexemes) → Reading Word tokens
  | ⟨.word w, _⟩ :: _ => .ok (w, .tail)
  | tokens => unexpected tokens (some "word")

/-- Reads the name of the variable of a loop. -/
def loopName : (tokens : Lexemes) → Reading String tokens
  | ⟨.word w, line⟩ :: _ =>
    match w.bare? with
    | some name => if isName name.toList then .ok (name, .tail) else .error ⟨line, .loopVariable⟩
    | none => .error ⟨line, .loopVariable⟩
  | tokens => .error ⟨lineOf tokens, .loopVariable⟩

/-- What follows the end of a command; tells whether nothing waits for the command. -/
def separator? (tokens : Lexemes) : Option (Bool × Remainder tokens) :=
  ((afterMark? .background tokens).map (true, ·))
    <|> ((afterMark? .semicolon tokens <|> afterMark? .lineEnd tokens).map (false, ·))

/-- Reads redirections. -/
def redirects : (tokens : Lexemes) → Except SyntaxFault (List Redirect × Leftover tokens)
  | ⟨.redirect descriptor direction, _⟩ :: ⟨.word target, _⟩ :: rest => do
    let (more, last) ← redirects rest
    .ok (.file descriptor direction target :: more,
      (Remainder.tail.widen (Remainder.tail (l := rest))).leave last)
  | ⟨.redirect .., _⟩ :: rest => unexpected rest none false
  | ⟨.document descriptor text, _⟩ :: rest => do
    let (more, last) ← redirects rest
    .ok (.document descriptor text :: more, Remainder.tail.leave last)
  | _ => .ok ([], .all)

/-- What stands in a command without structure. -/
structure Simple where
  assignments : List (String × Word) := []
  words : List Word := []
  redirects : List Redirect := []

namespace Simple

/-- A command with a word in front. -/
def withWord (w : Word) (assignable : Bool) (s : Simple) : Simple :=
  match if assignable then w.assignment? else none with
  | some assignment => { s with assignments := assignment :: s.assignments }
  | none => { s with words := w :: s.words }

/-- Reads the words and redirections of a command. In front of its first word stand assignments. -/
def read (assignable : Bool) : (tokens : Lexemes) → Except SyntaxFault (Simple × Leftover tokens)
  | ⟨.word w, _⟩ :: rest => do
    let (s, last) ← read (assignable && w.assignment?.isSome) rest
    .ok (s.withWord w assignable, Remainder.tail.leave last)
  | ⟨.redirect descriptor direction, _⟩ :: ⟨.word target, _⟩ :: rest => do
    let (s, last) ← read assignable rest
    .ok ({ s with redirects := .file descriptor direction target :: s.redirects },
      (Remainder.tail.widen (Remainder.tail (l := rest))).leave last)
  | ⟨.redirect .., _⟩ :: rest => unexpected rest none false
  | ⟨.document descriptor text, _⟩ :: rest => do
    let (s, last) ← read assignable rest
    .ok ({ s with redirects := .document descriptor text :: s.redirects },
      Remainder.tail.leave last)
  | _ => .ok ({}, .all)

end Simple

/-- Reads the patterns of a branch up to their closing bracket. -/
def patterns : (tokens : Lexemes) → Reading (List Word) tokens
  | ⟨.word w, _⟩ :: ⟨.mark .closing, _⟩ :: _ => .ok ([w], Remainder.tail.widen .tail)
  | ⟨.word w, _⟩ :: ⟨.mark .bar, _⟩ :: rest => do
    let (more, last) ← patterns rest
    .ok (w :: more, Remainder.tail.widen (Remainder.tail.widen last))
  | ⟨.word _, _⟩ :: rest => unexpected rest (some (inQuotes ")")) false
  | tokens => unexpected tokens (some (inQuotes ")"))

/-- Reads the words that a loop runs through up to the end of their line. -/
def loopWords : (tokens : Lexemes) → Reading (List Word) tokens
  | ⟨.word w, _⟩ :: rest => do
    let (more, last) ← loopWords rest
    .ok (w :: more, Remainder.tail.widen last)
  | ⟨.mark .semicolon, _⟩ :: _ | ⟨.mark .lineEnd, _⟩ :: _ => .ok ([], .tail)
  | tokens => unexpected tokens none

/-- The commands of the shell that no function replaces. -/
def unreplaceable : List String :=
  ["break", ":", "continue", ".", "eval", "exec", "exit", "export", "local", "readonly", "return",
   "set", "shift", "times", "trap", "unset"]

/-- Reads the name of a function and the brackets behind it, if a function is defined here. -/
def functionName? : (tokens : Lexemes) → Except SyntaxFault (Option (String × Remainder tokens))
  | ⟨.word w, _⟩ :: ⟨.mark .opening, _⟩ :: ⟨.mark .closing, line⟩ :: _ =>
    if w.assignment?.isSome then .ok none
    else
      match w.bare? with
      | some name =>
        if isName name.toList && !unreplaceable.contains name then
          .ok (some (name, Remainder.tail.widen (Remainder.tail.widen .tail)))
        else .error ⟨line, .functionName⟩
      | none => .error ⟨line, .functionName⟩
  | ⟨.word w, _⟩ :: ⟨.mark .opening, _⟩ :: rest =>
    if w.assignment?.isSome then .ok none else unexpected rest (some (inQuotes ")")) false
  | _ => .ok none

/-- Reads a command without structure. -/
def simple (tokens : Lexemes) : Reading Program tokens := do
  let (s, left) ← Simple.read true tokens
  if shorter : left.val.length < tokens.length then
    .ok (.command (lineOf tokens) s.assignments s.words s.redirects, ⟨left.val, shorter⟩)
  else unexpected tokens none

mutual

/-- Reads a list of commands, up to a token that ends it; it may be `vacant`, as it is in front of
the end of the text. -/
def list (vacant : Bool) (tokens : Lexemes) : Except SyntaxFault (Program × Leftover tokens) := do
  let ⟨start, fits⟩ := afterLineEnds tokens
  if start.head?.all fun next => next.token.endsText || vacant && next.token.endsList then
    .ok (.skip, ⟨start, fits⟩)
  else do
    let (first, left) ← joined start
    match separator? left.val with
    | some (waitsNot, next) =>
      let next := (left.widen next).within fits
      let (second, last) ← list true next.val
      .ok (.sequence (if waitsNot then .background first else first) second, next.leave last)
    | none => .ok (first, (left.within fits).toLeftover)
termination_by (tokens.length, 5)
decreasing_by
  · exact Prod.lex_def.2 (by dsimp only; omega)
  · exact Prod.Lex.left _ _ next.property

/-- Reads pipelines joined by `&&` and `||`, which associate to the left. -/
def joined (tokens : Lexemes) : Reading Program tokens := do
  let (first, left) ← pipeline tokens
  let (program, last) ← joinedTo first left.val
  .ok (program, left.shrink last)
termination_by (tokens.length, 4)
decreasing_by
  · exact Prod.Lex.right _ (by decide)
  · exact Prod.Lex.left _ _ left.property

/-- Reads the pipelines that are joined to a program already read. -/
def joinedTo (first : Program) (tokens : Lexemes) :
    Except SyntaxFault (Program × Leftover tokens) := do
  match afterMark? .both tokens with
  | some next =>
    let start := next.shrink (afterLineEnds next.val)
    let (second, left) ← pipeline start.val
    let (program, last) ← joinedTo (.both first second) left.val
    .ok (program, (start.widen left).leave last)
  | none =>
    match afterMark? .either tokens with
    | some next =>
      let start := next.shrink (afterLineEnds next.val)
      let (second, left) ← pipeline start.val
      let (program, last) ← joinedTo (.either first second) left.val
      .ok (program, (start.widen left).leave last)
    | none => .ok (first, .all)
termination_by (tokens.length, 4)
decreasing_by
  · exact Prod.Lex.left _ _ start.property
  · exact Prod.Lex.left _ _ (start.widen left).property
  · exact Prod.Lex.left _ _ start.property
  · exact Prod.Lex.left _ _ (start.widen left).property

/-- Reads a pipeline, which may be negated. -/
def pipeline (tokens : Lexemes) : Reading Program tokens := do
  match afterWord? "!" tokens with
  | some start =>
    let (first, left) ← element start.val
    let (program, last) ← pipedFrom first left.val
    .ok (.negate program, start.widen (left.shrink last))
  | none =>
    let (first, left) ← element tokens
    let (program, last) ← pipedFrom first left.val
    .ok (program, left.shrink last)
termination_by (tokens.length, 3)
decreasing_by
  · exact Prod.Lex.left _ _ start.property
  · exact Prod.Lex.left _ _ (start.widen left).property
  · exact Prod.Lex.right _ (by decide)
  · exact Prod.Lex.left _ _ left.property

/-- Reads the elements of a pipeline that read what a program already read writes. -/
def pipedFrom (first : Program) (tokens : Lexemes) :
    Except SyntaxFault (Program × Leftover tokens) := do
  match afterMark? .bar tokens with
  | some next =>
    let start := next.shrink (afterLineEnds next.val)
    let (second, left) ← element start.val
    let (others, last) ← pipedFrom second left.val
    .ok (.pipe first others, (start.widen left).leave last)
  | none => .ok (first, .all)
termination_by (tokens.length, 3)
decreasing_by
  · exact Prod.Lex.left _ _ start.property
  · exact Prod.Lex.left _ _ (start.widen left).property

/-- Reads a command, a function, or a structure with its redirections. -/
def element (tokens : Lexemes) : Reading Program tokens := do
  match ← structure? tokens with
  | some (program, left) =>
    let (list, last) ← redirects left.val
    .ok (if list.isEmpty then program else .redirected (lineOf tokens) program list,
      left.shrink last)
  | none =>
    match ← functionName? tokens with
    | some (name, left) =>
      let start := left.shrink (afterLineEnds left.val)
      let (body, last) ← element start.val
      .ok (.define name body, start.widen last)
    | none => simple tokens
termination_by (tokens.length, 2)
decreasing_by
  · exact Prod.Lex.right _ (by decide)
  · exact Prod.Lex.left _ _ start.property

/-- Reads a structure if one starts here. -/
def structure? (tokens : Lexemes) :
    Except SyntaxFault (Option (Program × Remainder tokens)) := do
  match afterMark? .opening tokens with
  | some start =>
    let (program, left) ← list false start.val
    let last ← expectMark .closing left.val
    .ok (some (.apart (lineOf tokens) program, start.widen (last.within left.property)))
  | none =>
    match (tokens.head?.bind (·.token.reserved?)).bind fun text =>
        (afterWord? text tokens).map (text, ·) with
    | none => .ok none
    | some ("\x7b", start) =>
      let (program, left) ← list false start.val
      let last ← expectWord "\x7d" left.val
      .ok (some (program, start.widen (last.within left.property)))
    | some ("if", start) =>
      let (program, left) ← conditional start.val
      .ok (some (program, start.widen left))
    | some ("while", start) =>
      let (program, left) ← loop true start.val
      .ok (some (program, start.widen left))
    | some ("until", start) =>
      let (program, left) ← loop false start.val
      .ok (some (program, start.widen left))
    | some ("for", start) =>
      let (name, left) ← loopName start.val
      let left := start.widen (left.shrink (afterLineEnds left.val))
      match afterWord? "in" left.val with
      | some next =>
        let (words, next') ← loopWords next.val
        let next := left.widen (next.widen (next'.shrink (afterLineEnds next'.val)))
        let (body, last) ← body next.val
        .ok (some (.each (lineOf tokens) name (some words) body, next.widen last))
      | none =>
        let next := left.shrink (skipMark .semicolon left.val)
        let next := next.shrink (afterLineEnds next.val)
        let (body, last) ← body next.val
        .ok (some (.each (lineOf tokens) name none body, next.widen last))
    | some ("case", start) =>
      let (subject, left) ← word start.val
      let left := start.widen (left.shrink (afterLineEnds left.val))
      let next ← expectWord "in" left.val
      let (branches, last) ← branches next.val
      .ok (some (.choice (lineOf tokens) subject branches, left.widen (next.widen last)))
    | some _ => unexpected tokens none
termination_by (tokens.length, 1)
decreasing_by
  · exact Prod.Lex.left _ _ start.property
  · exact Prod.Lex.left _ _ start.property
  · exact Prod.Lex.left _ _ start.property
  · exact Prod.Lex.left _ _ start.property
  · exact Prod.Lex.left _ _ start.property
  · exact Prod.Lex.left _ _ next.property
  · exact Prod.Lex.left _ _ next.property
  · exact Prod.Lex.left _ _ (left.widen next).property

/-- Reads the test, the body and the alternatives of a condition. -/
def conditional (tokens : Lexemes) : Reading Program tokens := do
  let (test, left) ← list false tokens
  let start ← expectWord "then" left.val
  let start := start.within left.property
  let (yes, left) ← list false start.val
  match afterWord? "elif" left.val with
  | some next =>
    let next := start.widen (next.within left.property)
    let (no, last) ← conditional next.val
    .ok (.conditional test yes no, next.widen last)
  | none =>
    match afterWord? "else" left.val with
    | some next =>
      let next := start.widen (next.within left.property)
      let (no, left) ← list false next.val
      let last ← expectWord "fi" left.val
      .ok (.conditional test yes no, next.widen (last.within left.property))
    | none =>
      let last ← expectWord "fi" left.val
      .ok (.conditional test yes .skip, start.widen (last.within left.property))
termination_by (tokens.length, 6)
decreasing_by
  · exact Prod.Lex.right _ (by decide)
  · exact Prod.Lex.left _ _ start.property
  · exact Prod.Lex.left _ _ next.property
  · exact Prod.Lex.left _ _ next.property

/-- Reads the test and the body of a loop. -/
def loop (goesOn : Bool) (tokens : Lexemes) : Reading Program tokens := do
  let (test, ⟨left, fits⟩) ← list false tokens
  let (body, last) ← body left
  .ok (.loop goesOn test body, last.within fits)
termination_by (tokens.length, 7)
decreasing_by
  · exact Prod.Lex.right _ (by decide)
  · exact Prod.lex_def.2 (by dsimp only; omega)

/-- Reads the body of a loop. -/
def body (tokens : Lexemes) : Reading Program tokens := do
  let start ← expectWord "do" tokens
  let (body, left) ← list false start.val
  let last ← expectWord "done" left.val
  .ok (body, start.widen (last.within left.property))
termination_by (tokens.length, 6)
decreasing_by exact Prod.Lex.left _ _ start.property

/-- Reads the branches of a choice. -/
def branches (tokens : Lexemes) : Reading Branches tokens := do
  let ⟨start, fits⟩ := afterLineEnds tokens
  match afterWord? "esac" start with
  | some left => .ok (.none, left.within fits)
  | none =>
    let (patterns, left) ← patterns (skipMark .opening start).val
    let left := (left.within (skipMark .opening start).property).within fits
    let (body, ⟨after, near⟩) ← list true left.val
    match afterMark? .branchEnd after with
    | some next =>
      let next := left.widen (next.within near)
      let (others, last) ← branches next.val
      .ok (.branch patterns body others, next.widen last)
    | none =>
      match afterWord? "esac" after with
      | some last => .ok (.branch patterns body .none, left.widen (last.within near))
      | none => unexpected after (some (inQuotes ";;"))
termination_by (tokens.length, 6)
decreasing_by
  · exact Prod.Lex.left _ _ left.property
  · exact Prod.Lex.left _ _ next.property

end

/-- A script: its complete commands and the fault behind them, if there is one. -/
structure Script where
  commands : List Program
  fault? : Option SyntaxFault

namespace Script

/-- Reads the commands of a line, and of further lines if a structure goes over them. -/
def line (tokens : Lexemes) : Reading Program tokens := do
  match afterMark? .lineEnd tokens <|> afterMark? .finish tokens with
  | some left => .ok (.skip, left)
  | none =>
    let (first, left) ← joined tokens
    match afterMark? .lineEnd left.val <|> afterMark? .finish left.val with
    | some last => .ok (first, left.widen last)
    | none =>
      match separator? left.val with
      | some (waitsNot, next) =>
        let next := left.widen next
        let (second, last) ← line next.val
        .ok (.sequence (if waitsNot then .background first else first) second, next.widen last)
      | none => unexpected left.val none
termination_by tokens.length
decreasing_by exact next.property

/-- The script that tokens are. -/
def ofLexemes (tokens : Lexemes) : Script :=
  if tokens.isEmpty then ⟨[], none⟩
  else
    match line tokens with
    | .error fault => ⟨[], some fault⟩
    | .ok (program, left) =>
      let script := ofLexemes left.val
      { script with commands := program :: script.commands }
termination_by tokens.length
decreasing_by exact left.property

/-- Reads a script whose first line has the given number. -/
def read (start : Nat) (text : String) : Script := ofLexemes (lexemes start text)

end Script

end SignatureAudit.Emulation.Shell
