import SignatureAudit.Audit.Plan
import SignatureAudit.Call.Slot
import SignatureAudit.Call.Usage

/-!
# What an audit covers

An audit of some types and functions is a list of stages, each of which plans its steps.

* A type is probed by calling each of its methods on a literal of the type.
* A function is probed by calling each of its combinations. The function `project` has to be the
  first statement of a build file, so its calls are probed alone in an emptied one.
* With usages, a value is also passed to every callable that accepts it.

A request to stop is honoured in front of each type, each function, each combination and each
signature that a value may be passed to.
-/

namespace SignatureAudit

/-- What is audited beyond the calls themselves, and how far. -/
structure AuditOptions where
  /-- Pass each audited type to every callable that accepts it. -/
  typeUsages : Bool := false
  /-- Pass each returned value to every callable that accepts it. -/
  returnUsages : Bool := false
  /-- Describe calls by the name of the callable only. -/
  nameOnly : Bool := false
  /-- At most this many combinations of a signature. -/
  limit : Option Nat := none
  deriving DecidableEq, Repr

/-- A part of an audit whose steps share a build file. -/
structure Stage where
  /-- Whether the steps run with the build file emptied; its text comes back afterwards. -/
  emptied : Bool := false
  planning : Planning Unit

/-- What an audit is about. -/
structure Audit where
  catalog : Catalog
  templates : Templates
  options : AuditOptions := {}

namespace Audit

/-- The variable that holds a returned value. -/
def returnVariable : String := "ret"

/-- The variable that holds a value of the audited type. -/
def objectVariable : String := "obj"

/-- The variable that a method is called on when it is passed a value. -/
def receiverVariable : String := "recv"

/-- Whether a callable is the function that has to be called first in a build file. -/
def isProjectCall (name : String) (receiver : Option String) : Bool :=
  name == "project" && receiver.isNone

/-- How a call is described. -/
def describe (a : Audit) (id : String) (c : Combination) : String :=
  if a.options.nameOnly then id else c.describe id

/-- The combinations of a signature that are probed. -/
def limited (a : Audit) (s : Signature) : List Combination :=
  match a.options.limit with
  | some limit => s.firstCombinations limit
  | none => s.combinations

/-- A call on the literal of a receiver. -/
def assign (var literal : String) : String := var ++ " = " ++ literal

/-! ## Passing a value on -/

/-- The setup line and the form of a call of a signature: a method is called on a variable of its
receiver type. Without a template for the receiver there is none. -/
def calleeForm (a : Audit) (s : Signature) :
    ExceptT Template.Missing Naming (List String × CallForm) :=
  match s.receiver with
  | none => pure ([], CallForm.function s)
  | some receiver => do
    let literal ← match ← a.templates.receiver? s.id with
      | some literal => pure literal
      | none => a.templates.resolve (.named receiver) {}
    pure ([assign receiverVariable literal], CallForm.method s receiverVariable)

/-- The token by which a variable is passed. -/
def passed (var : String) : Fit → String
  | .direct => var
  | .element => "[" ++ var ++ "]"

/-- The step that passes the value of a variable to a slot of a signature. -/
def slotStep (a : Audit) (type : TypeExpr) (setup : List String) (var origin : String)
    (s : Signature) (slot : Slot) : Naming Step := do
  match ← (a.calleeForm s).run with
  | .error missing => pure (.notice (s.id ++ ": " ++ missing.message))
  | .ok (receiver, form) =>
    let description := a.describe s.id slot.combination ++ " with " ++ type.canonical ++ " from "
      ++ origin ++ " as '" ++ slot.param ++ "'"
    let form := form.bind slot.param (passed var slot.fit)
    match ← (form.render a.templates slot.combination none false).run with
    | .error fault => pure (.notice (description ++ ": " ++ fault.message))
    | .ok call => pure (.probe { description, setup := setup ++ receiver, call })

/-- Plans passing the value of a variable to each of some signatures that accept it. -/
def planUsages (a : Audit) (type : TypeExpr) (setup : List String) (var origin : String) :
    List Signature → Planning Unit
  | [] => pure ()
  | s :: rest => do
    Planning.take .checkpoint
    match s.slot? a.catalog.hierarchy type with
    | none => pure ()
    | some slot => Planning.take (← a.slotStep type setup var origin s slot)
    a.planUsages type setup var origin rest

/-- The signatures that a value can be passed to: all but those of `project`. -/
def receivers (a : Audit) : List Signature :=
  (a.catalog.callables.filter fun c => !isProjectCall c.name c.receiver).flatMap (·.overloads)

/-! ## Calling a signature -/

/-- Plans probing some combinations, and answers the first call that could be rendered. A wrong
number of arguments ends the list. -/
def planCalls (a : Audit) (id : String) (form : CallForm) (returnAs : Option String)
    (setup usage : List String) :
    (first? : Option (List String)) → List Combination → Planning (Option (List String))
  | first?, [] => pure first?
  | first?, c :: rest => do
    Planning.take .checkpoint
    let description := a.describe id c
    match ← (form.render a.templates c returnAs false).run with
    | .ok call =>
      Planning.take (.probe { description, setup, call, usage })
      a.planCalls id form returnAs setup usage (first?.or (some call)) rest
    | .error fault =>
      Planning.take (.notice (description ++ ": " ++ fault.message))
      if fault.isMissing then a.planCalls id form returnAs setup usage first? rest
      else pure first?

/-- Plans the lines that call every method of a returned value, or a notice why there are none. -/
def planResult (a : Audit) (id : String) (s : Signature) (var : String) :
    Planning (List String) := do
  match ← (a.catalog.usages a.templates s.returns var).run with
  | .ok lines => pure lines
  | .error fault =>
    Planning.take (.notice (id ++ ": " ++ fault.message))
    pure []

/-- Plans passing a returned value on, after its first call. -/
def planReturnUsages (a : Audit) (id : String) (s : Signature) (setup : List String)
    (firstCall : Option (List String)) : Planning Unit :=
  match firstCall with
  | some call =>
    if a.options.returnUsages && (a.catalog.owner? s.returns).isSome then
      a.planUsages s.returns (setup ++ call) returnVariable id a.receivers
    else pure ()
  | none => pure ()

/-- Plans one signature: each combination with its value captured and used. -/
def planSignature (a : Audit) (id : String) (s : Signature) (form : CallForm)
    (setup : List String) : Planning Unit := do
  if s.returns = .none then
    let _ ← a.planCalls id form none setup [] none (a.limited s)
  else
    let usage ← a.planResult id s returnVariable
    let firstCall ← a.planCalls id form (some returnVariable) setup usage none (a.limited s)
    a.planReturnUsages id s setup firstCall

/-! ## Types -/

/-- The literal that a method is called on: its own, that of its declaration, or the object. -/
def methodReceiver (a : Audit) (m : MethodRef) (type object : String) : Naming String := do
  match ← a.templates.receiver? (m.idOn type) with
  | some literal => pure literal
  | none =>
    match ← a.templates.receiver? m.callable.id with
    | some literal => pure literal
    | none => pure object

/-- Plans some overloads of a method. -/
def planOverloads (a : Audit) (id : String) (setup : List String) :
    List Signature → Planning Unit
  | [] => pure ()
  | s :: rest => do
    a.planSignature id s ((CallForm.method s objectVariable).prefer id) setup
    a.planOverloads id setup rest

/-- Plans some methods of a type, called on the object or on a literal of their own. -/
def planMethods (a : Audit) (type object : String) : List MethodRef → Planning Unit
  | [] => pure ()
  | m :: rest => do
    let receiver ← a.methodReceiver m type object
    a.planOverloads (m.idOn type) [assign objectVariable receiver] m.callable.overloads
    a.planMethods type object rest

/-- Plans a type. -/
def planType (a : Audit) (t : TypeInfo) : Planning Unit := do
  Planning.take .checkpoint
  match ← (a.templates.resolve (.named t.name) {}).run with
  | .error missing => Planning.take (.notice missing.message)
  | .ok object =>
    a.planMethods t.name object (a.catalog.methodsOf t.name)
    if a.options.typeUsages then
      a.planUsages (.named t.name) [assign objectVariable object] objectVariable t.name
        a.receivers

/-! ## Functions -/

/-- Plans some overloads of a function. -/
def planFunction (a : Audit) (id : String) : List Signature → Planning Unit
  | [] => pure ()
  | s :: rest => do
    a.planSignature id s (CallForm.function s) []
    a.planFunction id rest

/-- Plans some combinations of `project`, with inline arguments. -/
def planProjectCalls (a : Audit) (id : String) (form : CallForm) :
    List Combination → Planning Unit
  | [] => pure ()
  | c :: rest => do
    Planning.take .checkpoint
    let description := a.describe id c
    match ← (form.render a.templates c none true).run with
    | .ok call =>
      Planning.take (.probe { description, call })
      a.planProjectCalls id form rest
    | .error fault =>
      if fault.isMissing then
        Planning.take (.notice fault.message)
        a.planProjectCalls id form rest
      else Planning.take (.notice (description ++ ": " ++ fault.message))

/-- Plans some overloads of `project`. -/
def planProject (a : Audit) (id : String) : List Signature → Planning Unit
  | [] => pure ()
  | s :: rest => do
    a.planProjectCalls id (CallForm.function s) (a.limited s)
    a.planProject id rest

/-! ## The whole audit -/

/-- The stages of a function. -/
def functionStages (a : Audit) (f : Callable) : List Stage :=
  if isProjectCall f.name f.receiver then
    [{ planning := Planning.take .checkpoint },
     { emptied := true, planning := a.planProject f.id f.overloads }]
  else [{ planning := do Planning.take .checkpoint; a.planFunction f.id f.overloads }]

/-- The stages of an audit of some types and functions: the types first. -/
def stages (a : Audit) (types : List TypeInfo) (functions : List Callable) : List Stage :=
  types.map (fun t => { planning := a.planType t }) ++ functions.flatMap a.functionStages

end Audit

end SignatureAudit
