import SignatureAudit.Remainder
import SignatureAudit.TypeExpr.Basic
import SignatureAudit.TypeExpr.Token

/-!
# Reading type expressions

The notation is

    Type ::= Any | None | Array | Array[Type] | Union[Type {, Type}] | Optional[Type] | word

where `Optional[T]` is the union of `T` and the absent argument. `read` answers with the flattened
type or with the first fault from the left. Each step of the reader returns the tokens it left over
together with the fact that they are fewer, which is why it ends.
-/

namespace SignatureAudit.TypeExpr

/-- Why a text is no type expression. -/
inductive Fault
  /-- A type was expected at this byte offset. -/
  | nameExpected (offset : Nat)
  /-- An argument list has neither a comma nor its closing bracket after an argument. -/
  | unterminatedList
  /-- A name that needs arguments is followed by this character, or by the end of the text. -/
  | argumentsExpected (found : Option Char)
  | arrayArity
  | optionalArity
  /-- A name that takes no arguments is followed by some. -/
  | notGeneric (name : String)
  /-- Something follows the type at this byte offset. -/
  | trailing (offset : Nat)
  deriving DecidableEq, Repr

/-- The wording of a fault. -/
def Fault.message : Fault → String
  | .nameExpected offset => "expected a type name at offset " ++ toString offset
  | .unterminatedList => "unterminated argument list"
  | .argumentsExpected (some c) => "expected '[', found '" ++ String.singleton c ++ "'"
  | .argumentsExpected Option.none => "expected '[', found end of input"
  | .arrayArity => "Array takes exactly one element type"
  | .optionalArity => "Optional takes exactly one type"
  | .notGeneric name => "'" ++ name ++ "' is not generic"
  | .trailing offset => "unexpected trailing input at offset " ++ toString offset

/-- A text that is no type expression, and why. -/
structure Malformed where
  text : String
  fault : Fault
  deriving DecidableEq, Repr

/-- The wording of the error. -/
def Malformed.message (e : Malformed) : String :=
  "Invalid type expression '" ++ e.text ++ "': " ++ e.fault.message

/-- What a word means at the head of a type. -/
inductive Head
  | any
  | none
  | array
  | union
  | optional
  | name (text : String)
  deriving DecidableEq, Repr

/-- The five words of the notation; every other word is a name. -/
def Head.ofWord (text : String) : Head :=
  if text = "Any" then .any
  else if text = "None" then .none
  else if text = "Array" then .array
  else if text = "Union" then .union
  else if text = "Optional" then .optional
  else .name text

/-- Whether an argument list starts here. -/
def opens : List Token → Bool
  | ⟨.opening, _⟩ :: _ => true
  | _ => false

/-- The byte offset of the next token in a text of the given size. -/
def nextOffset (size : Nat) : List Token → Nat
  | [] => size
  | token :: _ => token.offset

mutual

/-- Reads a type at the front of the tokens of a text of `size` bytes. -/
def readType (size : Nat) (tokens : List Token) : Except Fault (TypeExpr × Remainder tokens) :=
  match tokens with
  | ⟨.word text, _⟩ :: rest =>
    match Head.ofWord text with
    | .any => .ok (.any, .tail)
    | .none => .ok (.none, .tail)
    | .array =>
      if opens rest then do
        let (args, left) ← readArguments size rest
        match args with
        | [elem] => .ok (.arrayOf elem, Remainder.tail.widen left)
        | _ => .error .arrayArity
      else .ok (.array, .tail)
    | .union => do
      let (args, left) ← readArguments size rest
      .ok (unionOf args, Remainder.tail.widen left)
    | .optional => do
      let (args, left) ← readArguments size rest
      match args with
      | [inner] => .ok (unionOf [inner, .none], Remainder.tail.widen left)
      | _ => .error .optionalArity
    | .name name =>
      if opens rest then .error (.notGeneric name) else .ok (.named name, .tail)
  | tokens => .error (.nameExpected (nextOffset size tokens))
termination_by tokens.length

/-- Reads the arguments of a generic type, with their brackets. -/
def readArguments (size : Nat) (tokens : List Token) :
    Except Fault (List TypeExpr × Remainder tokens) :=
  match tokens with
  | ⟨.opening, _⟩ :: rest => do
    let (first, left) ← readType size rest
    let (others, last) ← readMore size left.val
    .ok (first :: others, Remainder.tail.widen (left.widen last))
  | token :: _ => .error (.argumentsExpected (some token.lexeme.first))
  | [] => .error (.argumentsExpected Option.none)
termination_by tokens.length

/-- Reads what follows an argument, up to the closing bracket. -/
def readMore (size : Nat) (tokens : List Token) : Except Fault (List TypeExpr × Remainder tokens) :=
  match tokens with
  | ⟨.comma, _⟩ :: rest => do
    let (next, left) ← readType size rest
    let (others, last) ← readMore size left.val
    .ok (next :: others, Remainder.tail.widen (left.widen last))
  | ⟨.closing, _⟩ :: _ => .ok ([], .tail)
  | _ => .error .unterminatedList
termination_by tokens.length

end

/-- The type that a text writes. -/
def read (text : String) : Except Malformed TypeExpr :=
  match readType text.utf8ByteSize (tokens text) with
  | .error fault => .error ⟨text, fault⟩
  | .ok (t, ⟨[], _⟩) => .ok t
  | .ok (_, ⟨token :: _, _⟩) => .error ⟨text, .trailing token.offset⟩

end SignatureAudit.TypeExpr
