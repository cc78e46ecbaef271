import SignatureAudit.Call.Rendering
import SignatureAudit.Proofs.Effect

/-!
# Which combinations can be rendered

Whether a combination is rendered does not depend on the fresh names, nor on how its value is kept
and where its literals stand: `CallForm.fault?` says what is wrong with it, if anything is. The
first argument without a template comes before a wrong number of arguments.
-/

namespace SignatureAudit.CallForm

variable (form : CallForm) (templates : Templates)

/-- The template that an argument needs, if there is none. -/
def lacks? (arg : Argument) : Option Template.Missing :=
  match form.bound.lookup arg.param.name with
  | some _ => none
  | none =>
    match templates.lookup arg.type (form.context arg.param.name) with
    | .ok _ => none
    | .error missing => some missing

/-- What is wrong with a number of arguments. -/
def miscount? (count : Nat) : Option Fault :=
  match form.receiver, Operator.ofName? form.name with
  | some _, some op => if count = op.arity then none else some (.arity form.name op.arity count)
  | _, _ => none

/-- Why a combination cannot be rendered. -/
def fault? (c : Combination) : Option Fault :=
  match c.args.findSome? (form.lacks? templates) with
  | some missing => some (.noTemplate missing)
  | none => form.miscount? c.args.length

theorem run_token (inline : Bool) (arg : Argument) (names : NameSupply) :
    (runOn (form.token templates inline arg) names).1.map (fun _ => ())
      = match form.lacks? templates arg with
        | some missing => .error (.noTemplate missing)
        | none => .ok () := by
  rw [token, lacks?]
  cases form.bound.lookup arg.param.name with
  | some token => rfl
  | none =>
    simp only [Templates.resolve]
    cases templates.lookup arg.type (form.context arg.param.name) with
    | error missing => rfl
    | ok template => cases inline <;> rfl

/-- All arguments are written unless one of them has no template. -/
theorem run_arguments (inline : Bool) (args : List Argument) (names : NameSupply) :
    (runOn (form.arguments templates inline args) names).1.map (fun r => r.2.length)
      = match args.findSome? (form.lacks? templates) with
        | some missing => .error (.noTemplate missing)
        | none => .ok args.length := by
  induction args generalizing names with
  | nil => rfl
  | cons arg rest ih =>
    have first := form.run_token templates inline arg names
    rw [arguments, runOn_bind, List.findSome?_cons]
    generalize runOn (form.token templates inline arg) names = r at first
    obtain ⟨answer, names'⟩ := r
    cases lacks : form.lacks? templates arg with
    | some missing =>
      rw [lacks] at first
      cases answer with
      | error fault => exact congrArg Except.error (Except.error.inj first)
      | ok token => cases first
    | none =>
      rw [lacks] at first
      cases answer with
      | error fault => cases first
      | ok token =>
        have others := ih names'
        simp only [runOn_bind]
        generalize runOn (form.arguments templates inline rest) names' = r at others
        obtain ⟨written, names''⟩ := r
        generalize rest.findSome? (form.lacks? templates) = lacking at others
        cases written with
        | error fault =>
          cases lacking with
          | some missing => exact congrArg Except.error (Except.error.inj others)
          | none => cases others
        | ok written =>
          cases lacking with
          | some missing => cases others
          | none => exact congrArg (fun n => Except.ok (n + 1)) (Except.ok.inj others)

/-- The call is written unless the number of its arguments is wrong. -/
theorem expression_eq (args : List String) :
    (form.expression args).map (fun _ => ())
      = match form.miscount? args.length with
        | some fault => .error fault
        | none => .ok () := by
  rw [expression, miscount?]
  cases form.receiver with
  | none => rfl
  | some receiver =>
    cases Operator.ofName? form.name with
    | none => rfl
    | some op =>
      have spelled := op.spell_isSome_iff receiver args
      simp only
      by_cases right : args.length = op.arity
      · rw [if_pos right]
        obtain ⟨call, written⟩ := Option.isSome_iff_exists.1 (spelled.2 right)
        rw [written]
        rfl
      · rw [if_neg right]
        cases written : op.spell receiver args with
        | none => rfl
        | some call => exact absurd (spelled.1 (by rw [written]; rfl)) right

/-- A combination is rendered exactly if it has no fault, and that fault is the answer else. -/
theorem run_render (c : Combination) (returnAs : Option String) (inline : Bool)
    (names : NameSupply) :
    (runOn (form.render templates c returnAs inline) names).1.map (fun _ => ())
      = match form.fault? templates c with
        | some fault => .error fault
        | none => .ok () := by
  have arguments := form.run_arguments templates inline c.args names
  rw [render, fault?, runOn_bind]
  generalize runOn (form.arguments templates inline c.args) names = r at arguments
  obtain ⟨written, names'⟩ := r
  cases lacks : c.args.findSome? (form.lacks? templates) with
  | some missing =>
    rw [lacks] at arguments
    cases written with
    | error fault => exact congrArg Except.error (Except.error.inj arguments)
    | ok written => cases arguments
  | none =>
    rw [lacks] at arguments
    cases written with
    | error fault => cases arguments
    | ok written =>
      obtain ⟨setup, args⟩ := written
      have length : args.length = c.args.length := Except.ok.inj arguments
      have call := form.expression_eq args
      rw [length] at call
      simp only
      cases expressed : form.expression args with
      | ok text =>
        rw [expressed] at call
        exact call
      | error fault =>
        rw [expressed] at call
        exact call

variable {form templates}

theorem exists_render {c : Combination} (h : form.fault? templates c = none)
    (returnAs : Option String) (inline : Bool) (names : NameSupply) :
    ∃ lines, (runOn (form.render templates c returnAs inline) names).1 = .ok lines := by
  have rendered := form.run_render templates c returnAs inline names
  rw [h] at rendered
  cases answer : (runOn (form.render templates c returnAs inline) names).1 with
  | ok lines => exact ⟨lines, rfl⟩
  | error fault =>
    rw [answer] at rendered
    cases rendered

theorem render_fault {c : Combination} {fault : Fault} (h : form.fault? templates c = some fault)
    (returnAs : Option String) (inline : Bool) (names : NameSupply) :
    (runOn (form.render templates c returnAs inline) names).1 = .error fault := by
  have rendered := form.run_render templates c returnAs inline names
  rw [h] at rendered
  cases answer : (runOn (form.render templates c returnAs inline) names).1 with
  | ok lines =>
    rw [answer] at rendered
    cases rendered
  | error found =>
    rw [answer] at rendered
    rw [Except.error.inj rendered]

end SignatureAudit.CallForm
