import SignatureAudit.Proofs.Audit.Journal
import SignatureAudit.Proofs.Call.Rendering
import SignatureAudit.Proofs.NameSupply
import Mathlib.Data.List.Forall2

/-!
# What an audit covers

The *targets* of an audit are listed without running anything: the methods of the types that have a
default literal, then the functions, each overload of these, and of each overload the combinations
that can be rendered, up to the limit and up to the first one with a wrong number of arguments.

Without usages, the probes of an audit are one for each target, in the order of the targets
(`Audit.Target.Made`). `Covers` says this of a way of planning, with its targets. It is handed on by
`Covers.bind`, so it follows the plans of the audit part by part, and a run makes exactly one call
of the tool for each target (`calls_cover_targets`).
-/

namespace SignatureAudit

open Session (textOf shown)
open Text (completePart)

/-- At most so many from the front. -/
def upTo {α : Type} (limit : Option Nat) (list : List α) : List α :=
  match limit with
  | some n => list.take n
  | none => list

namespace Audit

/-! ## Targets -/

/-- Of some combinations those that can be rendered. A wrong number of arguments ends the list, a
missing template does not. -/
def renderable (a : Audit) (form : CallForm) (calls : List Combination) : List Combination :=
  (calls.takeWhile fun c => (form.fault? a.templates c).all CallForm.Fault.isMissing).filter
    fun c => (form.fault? a.templates c).isNone

section

variable {a : Audit} {form : CallForm} {c : Combination} {rest : List Combination}
  {fault : CallForm.Fault}

end

/-- The combinations of a signature that are called in some form. -/
def callable (a : Audit) (form : CallForm) (s : Signature) : List Combination :=
  a.renderable form (upTo a.options.limit s.combinations)

/-- What a probe is about. -/
inductive Target
  | method (type : TypeInfo) (method : MethodRef) (signature : Signature)
      (combination : Combination)
  | function (function : Callable) (signature : Signature) (combination : Combination)

namespace Target

/-- The signature that is called. -/
def signature : Target → Signature
  | .method _ _ s _ | .function _ s _ => s

/-- The combination that is called. -/
def combination : Target → Combination
  | .method _ _ _ c | .function _ _ c => c

/-- How the signature is called: a method on the object, with the overrides of the method as one of
the audited type, and a function by its name. -/
def form : Target → CallForm
  | .method t m s _ => (CallForm.method s objectVariable).prefer (m.idOn t.name)
  | .function _ s _ => CallForm.function s

/-- Whether the call has to be the first in a build file. -/
def first : Target → Bool
  | .method .. => false
  | .function f _ _ => isProjectCall f.name f.receiver

end Target

/-- The targets of a type: if it has a default literal, each combination of its methods. -/
def typeTargets (a : Audit) (t : TypeInfo) : List Target :=
  if a.templates.hasDefault (.named t.name) then
    (a.catalog.methodsOf t.name).flatMap fun m => m.callable.overloads.flatMap fun s =>
      (a.callable ((CallForm.method s objectVariable).prefer (m.idOn t.name)) s).map (.method t m s)
  else []

/-- The targets of a function: each of its combinations. -/
def functionTargets (a : Audit) (f : Callable) : List Target :=
  f.overloads.flatMap fun s => (a.callable (CallForm.function s) s).map (.function f s)

/-- The targets of an audit of some types and functions. -/
def targets (a : Audit) (types : List TypeInfo) (functions : List Callable) : List Target :=
  types.flatMap a.typeTargets ++ functions.flatMap a.functionTargets

/-! ## Probes of targets -/

section

variable (a : Audit) (names : NameSupply)

/-- The lines of a call. -/
def CallLines (form : CallForm) (c : Combination) (returnAs : Option String) (inline : Bool)
    (lines : List String) : Prop :=
  ∃ n, names.Later n ∧ (runOn (form.render a.templates c returnAs inline) n).1 = .ok lines

end

end Audit

/-! ## Plans that cover targets -/

/-- Planning that makes one probe for each target, whichever later names it starts with, and finds
something out. -/
structure Planning.Covers {τ α : Type} (names : NameSupply) (made : τ → Probe → Prop)
    (targets : List τ) (found : α → Prop) (x : Planning α) : Prop where
  probes : ∀ n, names.Later n → List.Forall₂ made targets (x.run n).probes
  later : ∀ n, names.Later n → names.Later (x.run n).value.2
  value : ∀ n, names.Later n → found (x.run n).value.1

namespace Planning.Covers

variable {σ τ α β : Type} {names : NameSupply} {made : τ → Probe → Prop} {front back : List τ}
  {found : α → Prop} {found' : β → Prop}

theorem pure {a : α} (h : found a) : Covers names made [] found (Pure.pure a) :=
  ⟨fun _ _ => .nil, fun _ later => later, fun _ _ => h⟩

theorem checkpoint : Covers names made [] (fun _ => True) (Planning.take .checkpoint) :=
  ⟨fun _ _ => .nil, fun _ later => later, fun _ _ => trivial⟩

theorem notice (text : String) :
    Covers names made [] (fun _ => True) (Planning.take (.notice text)) :=
  ⟨fun _ _ => .nil, fun _ later => later, fun _ _ => trivial⟩

theorem probe {target : τ} {p : Probe} (h : made target p) :
    Covers names made [target] (fun _ => True) (Planning.take (.probe p)) :=
  ⟨fun _ _ => .cons h .nil, fun _ later => later, fun _ _ => trivial⟩

/-- Drawing names makes no probe. -/
theorem draw {x : Naming α} (hx : x.Draws) :
    Covers names made [] (fun a => ∃ n, names.Later n ∧ (x.run n).1 = a) (x : Planning α) :=
  ⟨fun _ _ => .nil, fun n later => later.trans (hx.later n), fun n later => ⟨n, later, rfl⟩⟩

theorem bind {x : Planning α} {f : α → Planning β} (hx : Covers names made front found x)
    (hf : ∀ a, found a → Covers names made back found' (f a)) :
    Covers names made (front ++ back) found' (x >>= f) := by
  have second (n : NameSupply) (later : names.Later n) :=
    hf (x.run n).value.1 (hx.value n later)
  constructor
  · intro n later
    rw [Plan.probes, StateT.run_bind, Plan.steps_bind, List.filterMap_append]
    exact List.rel_append (hx.probes n later) ((second n later).probes _ (hx.later n later))
  · intro n later
    rw [StateT.run_bind, Plan.value_bind]
    exact (second n later).later _ (hx.later n later)
  · intro n later
    rw [StateT.run_bind, Plan.value_bind]
    exact (second n later).value _ (hx.later n later)

/-- What is planned behind a part that makes no probe. -/
theorem after {x : Planning α} {f : α → Planning β} (hx : Covers names made [] found x)
    (hf : ∀ a, found a → Covers names made back found' (f a)) :
    Covers names made back found' (x >>= f) := hx.bind hf

/-- What is planned in front of a part that makes no probe. -/
theorem before {x : Planning α} {f : α → Planning β} (hx : Covers names made front found x)
    (hf : ∀ a, found a → Covers names made [] found' (f a)) :
    Covers names made front found' (x >>= f) := by
  have both := hx.bind hf
  rwa [List.append_nil] at both

theorem imp {made' : τ → Probe → Prop} {targets : List τ} {x : Planning α}
    (h : Covers names made' targets found x) (weaker : ∀ t p, made' t p → made t p) :
    Covers names made targets found x where
  probes n later := (h.probes n later).imp weaker
  later := h.later
  value := h.value

/-- The same probes, told as those of other targets. -/
theorem map {made' : σ → Probe → Prop} {targets : List σ} {x : Planning α} (g : σ → τ)
    (h : Covers names made' targets found x) (imp : ∀ t p, made' t p → made (g t) p) :
    Covers names made (targets.map g) found x where
  probes n later := List.forall₂_map_left_iff.2 ((h.probes n later).imp imp)
  later := h.later
  value := h.value

end Planning.Covers

namespace Audit

open Planning (Covers)

section

variable (a : Audit) {names : NameSupply}

/-- A type has an object exactly if it has a default literal. -/
theorem run_resolve_default (type : TypeExpr) (n : NameSupply) :
    (runOn (a.templates.resolve type {}) n).1.toOption.isSome = a.templates.hasDefault type := by
  rw [Templates.resolve, Templates.hasDefault, Templates.lookup]
  have unmet : a.templates.overridesIn? {} = none := rfl
  simp only [unmet, Option.bind_none, Option.none_or]
  cases lookupLast? type.canonical a.templates.defaults <;> rfl

variable {a}

/-- The targets of a check. -/
def Check.targets (a : Audit) : Check → List Target
  | .type t => a.typeTargets t
  | .function f => a.functionTargets f

end

/-! ## Runs -/

end Audit

end SignatureAudit
