import SignatureAudit.Call.Combination
import SignatureAudit.Call.Operator
import SignatureAudit.Template.Basic

/-!
# Rendering calls

A call form says how a signature is called: as a function or on a receiver, which overrides its
templates come from, and which parameters get a given token. Rendering a combination writes one
setup line `variable = literal` per argument that has no token of its own, then the call line;
inline, the literals stand in the call and there are no setup lines.
-/

namespace SignatureAudit

/-- How a signature is called. -/
structure CallForm where
  name : String
  /-- The variable that a method is called on. -/
  receiver : Option String
  /-- The callables whose overrides are consulted, the most specific first. -/
  consulted : List String
  /-- Tokens by parameter; of several for one parameter the first counts. -/
  bound : List (String × String) := []
  deriving DecidableEq, Repr

namespace CallForm

/-- Why a combination is not rendered. -/
inductive Fault
  /-- An operator method got the wrong number of arguments. -/
  | arity (method : String) (expected found : Nat)
  | noTemplate (missing : Template.Missing)
  deriving DecidableEq, Repr

/-- The wording of a fault. -/
def Fault.message : Fault → String
  | .arity method expected found =>
    method ++ " must be called with exactly " ++ toString expected ++ " argument(s) (not "
      ++ toString found ++ ")"
  | .noTemplate missing => missing.message

/-- Whether the fault is a missing template. -/
def Fault.isMissing : Fault → Bool
  | .noTemplate _ => true
  | .arity .. => false

/-- A call `name(…)`. -/
def function (s : Signature) : CallForm := ⟨s.name, none, [s.id], []⟩

/-- A call on a variable. -/
def method (s : Signature) (receiver : String) : CallForm := ⟨s.name, some receiver, [s.id], []⟩

/-- Consults the overrides of a callable before all others. -/
def prefer (form : CallForm) (callable : String) : CallForm :=
  if callable ∈ form.consulted then form
  else { form with consulted := callable :: form.consulted }

/-- Passes a token for a parameter instead of a literal. -/
def bind (form : CallForm) (param token : String) : CallForm :=
  { form with bound := (param, token) :: form.bound }

/-- Where the template of a parameter is looked up. -/
def context (form : CallForm) (param : String) : Template.Context := ⟨form.consulted, some param⟩

/-- The call with its arguments written out. -/
def expression (form : CallForm) (args : List String) : Except Fault String :=
  match form.receiver with
  | none => .ok (form.name ++ "(" ++ ",".intercalate args ++ ")")
  | some receiver =>
    match Operator.ofName? form.name with
    | none => .ok (receiver ++ "." ++ form.name ++ "(" ++ ",".intercalate args ++ ")")
    | some op =>
      match op.spell receiver args with
      | some call => .ok call
      | none => .error (.arity form.name op.arity args.length)

/-- The token of an argument with the setup lines that it needs. -/
def token (form : CallForm) (templates : Templates) (inline : Bool) (arg : Argument) :
    ExceptT Fault Naming (List String × String) :=
  match form.bound.lookup arg.param.name with
  | some token => pure ([], token)
  | none => do
    let literal ← (templates.resolve arg.type (form.context arg.param.name)).adapt Fault.noTemplate
    if inline then pure ([], literal)
    else
      let var ← ExceptT.lift Naming.draw
      pure ([var ++ " = " ++ literal], var)

/-- An argument as it stands in the call. -/
def written (arg : Argument) (token : String) : String :=
  if arg.param.isKeyword then arg.param.name ++ " : " ++ token else token

/-- The setup lines and the written arguments of a call. -/
def arguments (form : CallForm) (templates : Templates) (inline : Bool) :
    List Argument → ExceptT Fault Naming (List String × List String)
  | [] => pure ([], [])
  | arg :: rest => do
    let (setup, token) ← form.token templates inline arg
    let (setups, others) ← form.arguments templates inline rest
    pure (setup ++ setups, written arg token :: others)

/-- The line of a call whose value may be kept in a variable. -/
def line (returnAs : Option String) (call : String) : String :=
  match returnAs with
  | some var => var ++ " = " ++ call
  | none => call

/-- The lines of one call: its setup lines, then the call. -/
def render (form : CallForm) (templates : Templates) (combination : Combination)
    (returnAs : Option String) (inline : Bool) : ExceptT Fault Naming (List String) := do
  let (setup, args) ← form.arguments templates inline combination.args
  match form.expression args with
  | .ok call => pure (setup ++ [line returnAs call])
  | .error fault => throw fault

end CallForm

end SignatureAudit
