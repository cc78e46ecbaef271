import SignatureAudit.Call.Rendering
import SignatureAudit.Catalog.Basic

/-!
# Using a value

Whether a value really has its declared type shows when every method of the type is called on it.
`usages` writes those calls. Methods that need a receiver of their own are left out, and so are
combinations without a template; a wrong number of arguments ends the listing with that fault.
-/

namespace SignatureAudit

/-- The calls of some combinations in one form, less those without a template. -/
def CallForm.renderAll (form : CallForm) (templates : Templates) :
    List Combination → ExceptT CallForm.Fault Naming (List String)
  | [] => pure []
  | combination :: rest => do
    let rendered ← ExceptT.lift (form.render templates combination none false).run
    match rendered with
    | .ok lines => return lines ++ (← form.renderAll templates rest)
    | .error fault => if fault.isMissing then form.renderAll templates rest else throw fault

namespace MethodRef

/-- The name of the method as one of the given type. -/
def idOn (m : MethodRef) (type : String) : String := callableId (some type) m.callable.name

/-- Whether the method has to be called on a literal of its own. -/
def needsReceiver (m : MethodRef) (templates : Templates) (type : String) : Bool :=
  templates.requiresReceiver (m.idOn type) || templates.requiresReceiver m.callable.id

/-- The calls of every overload of the method on a variable that holds a value of the type. -/
def usages (m : MethodRef) (templates : Templates) (type receiver : String) :
    List Signature → ExceptT CallForm.Fault Naming (List String)
  | [] => pure []
  | s :: rest => do
    let form := (CallForm.method s receiver).prefer (m.idOn type)
    let lines ← form.renderAll templates s.combinations
    return lines ++ (← m.usages templates type receiver rest)

end MethodRef

/-- The calls of some methods of a type on a variable. -/
def usagesOf (templates : Templates) (type receiver : String) :
    List MethodRef → ExceptT CallForm.Fault Naming (List String)
  | [] => pure []
  | m :: rest =>
    if m.needsReceiver templates type then usagesOf templates type receiver rest
    else do
      let lines ← m.usages templates type receiver m.callable.overloads
      return lines ++ (← usagesOf templates type receiver rest)

/-- The calls of every method of a type on a variable; a type without methods of its own kind has
none. -/
def Catalog.usages (c : Catalog) (templates : Templates) (type : TypeExpr) (receiver : String) :
    ExceptT CallForm.Fault Naming (List String) :=
  match c.owner? type with
  | none => pure []
  | some owner => usagesOf templates owner.name receiver (c.methodsOf owner.name)

end SignatureAudit
