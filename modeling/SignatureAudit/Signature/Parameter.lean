import SignatureAudit.Text.Search
import SignatureAudit.TypeExpr.Reader

/-!
# Parameters

A parameter is declared as `name: Type`, as `name: Type = value` or as `*name: Type`. The first is
passed by position, the second by keyword, the third stands for any number of positional arguments;
after a starred parameter a plain one is passed by keyword too. Only a keyword parameter can have a
default, so its kind says whether it has one; what the default is never matters.
-/

namespace SignatureAudit

/-- How an argument is supplied at a call. -/
inductive ParamKind
  | positional
  /-- Written `name : value`; `hasDefault` tells whether the declaration gave one. -/
  | keyword (hasDefault : Bool)
  /-- Any number of positional arguments. -/
  | variadic
  deriving DecidableEq, Repr

/-- A parameter of a signature. -/
structure Parameter where
  name : String
  type : TypeExpr
  kind : ParamKind
  deriving DecidableEq, Repr

namespace Parameter

/-- Whether the argument is written `name : value`. -/
def isKeyword (p : Parameter) : Bool := p.kind matches .keyword _

/-- Whether the declaration gave a default. -/
def hasDefault (p : Parameter) : Bool := p.kind matches .keyword true

/-- Why a text declares no parameter. -/
inductive Fault
  | missingColon
  | invalidName
  | variadicDefault
  deriving DecidableEq, Repr

/-- The wording of a fault. -/
def Fault.message : Fault → String
  | .missingColon => "missing ':' before the type"
  | .invalidName => "invalid parameter name"
  | .variadicDefault => "variadic parameters cannot have a default"

/-- The error of a declaration: its own form or its type expression. -/
inductive Malformed
  | declaration (text : String) (fault : Fault)
  | type (error : TypeExpr.Malformed)
  deriving DecidableEq, Repr

/-- The wording of the error. -/
def Malformed.message : Malformed → String
  | .declaration text fault =>
    "Invalid parameter declaration '" ++ text ++ "': " ++ fault.message
  | .type error => error.message

/-- A nonempty run of ASCII letters, ASCII digits and underscores. -/
def isName (s : String) : Bool := !s.toList.isEmpty && s.toList.all TypeExpr.isWordChar

/-- The kind of a parameter from the marks of its declaration. -/
def kindOf (starred hasDefault afterVariadic : Bool) : Except Fault ParamKind :=
  if starred then
    if hasDefault then .error .variadicDefault else .ok .variadic
  else if hasDefault || afterVariadic then .ok (.keyword hasDefault)
  else .ok .positional

/-- Reads one declaration. The name is judged first, then the type, then the marks. -/
def read (text : String) (afterVariadic : Bool) : Except Malformed Parameter :=
  let trimmed := Text.trim text
  let (starred, declared) := match Text.dropFront? "*" trimmed with
    | some rest => (true, rest)
    | none => (false, trimmed)
  match Text.cut? ":" declared with
  | none => .error (.declaration text .missingColon)
  | some (before, after) =>
    let name := Text.trim before
    if !isName name then .error (.declaration text .invalidName)
    else
      let (expr, hasDefault) := match Text.cut? "=" after with
        | some (expr, _) => (expr, true)
        | none => (after, false)
      match TypeExpr.read (Text.trim expr) with
      | .error error => .error (.type error)
      | .ok type =>
        match kindOf starred hasDefault afterVariadic with
        | .error fault => .error (.declaration text fault)
        | .ok kind => .ok ⟨name, type, kind⟩

/-- Reads a list of declarations; those behind a starred one are keyword parameters. -/
def readAll (afterVariadic : Bool) : List String → Except Malformed (List Parameter)
  | [] => .ok []
  | text :: rest => do
    let p ← read text afterVariadic
    let ps ← readAll (afterVariadic || p.kind == .variadic) rest
    .ok (p :: ps)

/-- How a parameter with the given type appears in a listing: its name matters only for a keyword,
and a star marks any number of arguments. -/
def describe (p : Parameter) (type : TypeExpr) : String :=
  match p.kind with
  | .keyword _ => p.name ++ " : " ++ type.canonical
  | .variadic => "*" ++ type.canonical
  | .positional => type.canonical

/-- The listing of some parameters with their types. -/
def describeAll (args : List (Parameter × TypeExpr)) : String :=
  ", ".intercalate (args.map fun (p, type) => p.describe type)

end Parameter

end SignatureAudit
