import SignatureAudit.Signature.Parameter

/-!
# Signatures and callables

A signature is one overload of a function, or of a method when it has a receiver type. A callable
is a name with its overloads. Callables are built up one signature at a time: `addOverload` looks
for the callable that a signature belongs to, and makes a new one if there is none.
-/

namespace SignatureAudit

/-- How a callable is named everywhere: `name` for a function, `Receiver.name` for a method. -/
def callableId (receiver : Option String) (name : String) : String :=
  match receiver with
  | some receiver => receiver ++ "." ++ name
  | none => name

/-- One overload of a function or method. -/
structure Signature where
  name : String
  /-- The type that a method belongs to. -/
  receiver : Option String
  params : List Parameter
  returns : TypeExpr
  deriving DecidableEq, Repr

namespace Signature

/-- The name of the callable. -/
def id (s : Signature) : String := callableId s.receiver s.name

/-- The whole signature in one line. -/
def display (s : Signature) : String :=
  s.id ++ "(" ++ Parameter.describeAll (s.params.map fun p => (p, p.type)) ++ ") -> "
    ++ s.returns.canonical

end Signature

/-- A function or method with its overloads in order. -/
structure Callable where
  name : String
  receiver : Option String
  overloads : List Signature
  deriving DecidableEq, Repr

namespace Callable

/-- The name of the callable. -/
def id (c : Callable) : String := callableId c.receiver c.name

/-- Adds a signature to callables of one receiver: it is the last overload of the first callable
that has its name, or the only one of a new callable, which comes last. -/
def addOverload (receiver : Option String) (s : Signature) : List Callable → List Callable
  | [] => [⟨s.name, receiver, [s]⟩]
  | c :: rest =>
    if c.name = s.name then { c with overloads := c.overloads ++ [s] } :: rest
    else c :: addOverload receiver s rest

end Callable

end SignatureAudit
