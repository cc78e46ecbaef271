import SignatureAudit.Audit.Probe
import SignatureAudit.FreshName

/-!
# Plans

A plan says what an audit does, step by step: the points where a request to stop is honoured, the
notices, and the probes. The steps depend on the fresh names, never on what the build tool answers,
so a plan is a list of steps with a value at its end. What comes behind a step is only worked out
once the step has been taken: an audit that ends early leaves the rest of its plan, which may be
endless for all practical purposes, alone. `Plan.steps` and `Plan.value` show a plan as a whole.
-/

namespace SignatureAudit

/-- One step of an audit. -/
inductive Step
  /-- A request to stop is honoured here. -/
  | checkpoint
  | notice (text : String)
  | probe (probe : Probe)
  deriving DecidableEq, Repr

/-- Steps in their order, and what planning them found out. -/
inductive Plan (α : Type)
  | done (value : α)
  | step (first : Step) (next : Unit → Plan α)

namespace Plan

/-- A plan followed by the plan for its value. -/
def bind {α β : Type} (p : Plan α) (f : α → Plan β) : Plan β :=
  match p with
  | .done value => f value
  | .step first next => .step first fun _ => (next ()).bind f

instance : Monad Plan where
  pure := done
  bind := bind

/-- All steps. -/
def steps {α : Type} : Plan α → List Step
  | .done _ => []
  | .step first next => first :: (next ()).steps

/-- The value at the end. -/
def value {α : Type} : Plan α → α
  | .done value => value
  | .step _ next => (next ()).value

@[simp] theorem steps_pure {α : Type} (a : α) : (pure a : Plan α).steps = [] := rfl

@[simp] theorem value_pure {α : Type} (a : α) : (pure a : Plan α).value = a := rfl

@[simp] theorem steps_bind {α β : Type} (p : Plan α) (f : α → Plan β) :
    (p >>= f).steps = p.steps ++ (f p.value).steps := by
  induction p with
  | done value => rfl
  | step first next ih => exact congrArg (first :: ·) (ih ())

@[simp] theorem value_bind {α β : Type} (p : Plan α) (f : α → Plan β) :
    (p >>= f).value = (f p.value).value := by
  induction p with
  | done value => rfl
  | step first next ih => exact ih ()

theorem bind_pure {α : Type} (p : Plan α) : (p >>= fun a => pure a) = p := by
  induction p with
  | done value => rfl
  | step first next ih => exact congrArg (step first) (funext fun _ => ih ())

theorem bind_assoc {α β γ : Type} (p : Plan α) (f : α → Plan β) (g : β → Plan γ) :
    (p >>= f >>= g) = p >>= fun a => f a >>= g := by
  induction p with
  | done value => rfl
  | step first next ih => exact congrArg (step first) (funext fun _ => ih ())

instance : LawfulMonad Plan := LawfulMonad.mk' Plan bind_pure (fun _ _ => rfl) bind_assoc

end Plan

/-- Planning, which may draw fresh names. -/
abbrev Planning := StateT NameSupply Plan

namespace Planning

/-- Plans one step. -/
def take (step : Step) : Planning Unit := fun names => .step step fun _ => .done ((), names)

/-- Names are drawn without a step. -/
instance : MonadLift Naming Planning where
  monadLift draw := fun names => .done (draw.run names).run

end Planning

end SignatureAudit
