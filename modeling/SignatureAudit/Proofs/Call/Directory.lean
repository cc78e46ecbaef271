import SignatureAudit.Proofs.Template.Expansion
import Mathlib.Data.List.Basic

/-!
# The directory in literals

The directory of the project can be put in the place of its marker when a template is expanded, or
left to the one who writes the lines. A literal is the same either way once the directory is placed
in it (`matches_resolve`), because placing leaves no marker: the directory has none, and it stands
in quotes, which no marker has. In lines and calls, literals stand between characters that no marker
has either. So no marker reaches from a literal into what is around it, and placing the directory in
a line is placing it in the parts: lines that are made of matching literals match
(`CallForm.matches_render`, `Catalog.matches_usages`).
-/

namespace SignatureAudit

/-! ## Texts -/

namespace Template

variable {d x x' y y' sep : String} {xs xs' ys ys' : List String}

/-- Both texts are the same once the directory is placed in them. -/
def SameIn (directory x y : String) : Prop :=
  placeDirectory directory x = placeDirectory directory y

/-- Line by line, both texts are the same once the directory is placed in them. -/
def SameLines (directory : String) (xs ys : List String) : Prop :=
  xs.map (placeDirectory directory) = ys.map (placeDirectory directory)

/-- Whether a text has characters, but none that the directory marker has. -/
def separates (sep : String) : Bool :=
  !sep.toList.isEmpty && sep.toList.all fun c => !directoryMarker.toList.contains c

theorem placeDirectory_empty (d : String) : placeDirectory d "" = "" := by
  rw [← String.toList_inj, toList_placeDirectory]
  exact Text.substitute_nil

/-- The directory is placed in front of such a text and behind it. -/
theorem placeDirectory_append (apart : separates sep = true) :
    placeDirectory d (x ++ sep ++ y) = placeDirectory d x ++ sep ++ placeDirectory d y := by
  rw [separates, Bool.and_eq_true, Bool.not_eq_true', List.isEmpty_eq_false_iff, List.all_eq_true]
    at apart
  simp only [← String.toList_inj, String.toList_append, toList_placeDirectory]
  refine Text.substitute_append_append (by decide) apart.1 fun c hc => ?_
  simpa using apart.2 c hc

/-- No marker is left once the directory is placed. -/
theorem placeDirectory_placeDirectory (clean : Text.contains d directoryMarker = false) :
    placeDirectory d (placeDirectory d x) = placeDirectory d x :=
  placeDirectory_of_absent d (contains_placeDirectory (by decide) clean (.inl rfl))

theorem placeDirectory_intercalate (apart : separates sep = true) (xs : List String) :
    placeDirectory d (sep.intercalate xs) = sep.intercalate (xs.map (placeDirectory d)) := by
  induction xs with
  | nil => exact placeDirectory_empty d
  | cons x rest ih =>
    cases rest with
    | nil => simp
    | cons y rest =>
      rw [String.intercalate_cons_cons, placeDirectory_append apart, ih]
      simp only [List.map_cons, String.intercalate_cons_cons]

namespace SameIn

theorem refl (x : String) : SameIn d x x := rfl

theorem append (apart : separates sep = true) (hx : SameIn d x x') (hy : SameIn d y y') :
    SameIn d (x ++ sep ++ y) (x' ++ sep ++ y') := by
  rw [SameIn, placeDirectory_append apart, placeDirectory_append apart, hx, hy]

theorem ended (apart : separates sep = true) (hx : SameIn d x x') :
    SameIn d (x ++ sep) (x' ++ sep) := by
  simpa using append apart hx (refl "")

theorem intercalate (apart : separates sep = true) (h : SameLines d xs ys) :
    SameIn d (sep.intercalate xs) (sep.intercalate ys) := by
  rw [SameIn, placeDirectory_intercalate apart, placeDirectory_intercalate apart, h]

end SameIn

namespace SameLines

theorem refl (xs : List String) : SameLines d xs xs := rfl

theorem cons_iff : SameLines d (x :: xs) (y :: ys) ↔ SameIn d x y ∧ SameLines d xs ys := by
  rw [SameLines, List.map_cons, List.map_cons, List.cons.injEq, SameIn, SameLines]

theorem cons (hx : SameIn d x y) (hxs : SameLines d xs ys) : SameLines d (x :: xs) (y :: ys) :=
  cons_iff.2 ⟨hx, hxs⟩

theorem append (hx : SameLines d xs xs') (hy : SameLines d ys ys') :
    SameLines d (xs ++ ys) (xs' ++ ys') := by
  rw [SameLines, List.map_append, List.map_append, hx, hy]

theorem length (h : SameLines d xs ys) : xs.length = ys.length := by
  simpa using congrArg List.length h

end SameLines

end Template

open Template (SameIn SameLines)

/-! ## Answers and draws -/

/-- Both answers are values of a kind, or they are the same error. -/
inductive Answers {ε α β : Type} (R : α → β → Prop) : Except ε α → Except ε β → Prop
  | ok {a : α} {b : β} : R a b → Answers R (.ok a) (.ok b)
  | error (e : ε) : Answers R (.error e) (.error e)

/-- Whichever names are fresh, both computations draw as many and answer values of a kind. -/
structure Naming.Matches {α β : Type} (R : α → β → Prop) (x : Naming α) (y : Naming β) : Prop where
  value : ∀ n : NameSupply, R (x.run n).1 (y.run n).1
  names : ∀ n : NameSupply, (x.run n).2 = (y.run n).2

namespace Naming.Matches

variable {ε ε' α α' β β' : Type} {R : α → α' → Prop} {S : β → β' → Prop}

theorem pure {a : α} {b : α'} (h : R a b) :
    Matches R (Pure.pure a : Naming α) (Pure.pure b) := ⟨fun _ => h, fun _ => rfl⟩

theorem refl (x : Naming α) : Matches Eq x x := ⟨fun _ => rfl, fun _ => rfl⟩

theorem bind {x : Naming α} {y : Naming α'} {f : α → Naming β} {g : α' → Naming β'}
    (hx : Matches R x y) (hf : ∀ {a b}, R a b → Matches S (f a) (g b)) :
    Matches S (x >>= f) (y >>= g) := by
  constructor
  · intro n
    rw [run_bind, run_bind, hx.names n]
    exact (hf (hx.value n)).value _
  · intro n
    rw [run_bind, run_bind, hx.names n]
    exact (hf (hx.value n)).names _

theorem map {x : Naming α} {y : Naming α'} {f : α → β} {g : α' → β'} (hx : Matches R x y)
    (hf : ∀ {a b}, R a b → S (f a) (g b)) : Matches S (f <$> x) (g <$> y) :=
  ⟨fun n => hf (hx.value n), hx.names⟩

/-- Both computations go on, or both stop at the same error. -/
theorem bind_except {x : ExceptT ε Naming α} {y : ExceptT ε Naming α'}
    {f : α → ExceptT ε Naming β} {g : α' → ExceptT ε Naming β'}
    (hx : Matches (Answers R) x.run y.run)
    (hf : ∀ {a b}, R a b → Matches (Answers S) (f a).run (g b).run) :
    Matches (Answers S) (x >>= f).run (y >>= g).run := by
  have split : (x >>= f).run = x.run >>= ExceptT.bindCont f := rfl
  have split' : (y >>= g).run = y.run >>= ExceptT.bindCont g := rfl
  rw [split, split']
  refine bind hx fun answers => ?_
  cases answers with
  | ok h => exact hf h
  | error e => exact pure (.error e)

theorem ok {a : α} {b : α'} (h : R a b) :
    Matches (Answers R) (Pure.pure a : ExceptT ε Naming α).run
      (Pure.pure b : ExceptT ε Naming α').run := pure (.ok h)

theorem error (e : ε) :
    Matches (Answers R) (throw e : ExceptT ε Naming α).run (throw e : ExceptT ε Naming α').run :=
  pure (.error e)

theorem lift {x : Naming α} {y : Naming α'} (hx : Matches R x y) :
    Matches (Answers R) (ExceptT.lift x : ExceptT ε Naming α).run
      (ExceptT.lift y : ExceptT ε Naming α').run := map hx .ok

theorem adapt {x : ExceptT ε Naming α} {y : ExceptT ε Naming α'} (f : ε → ε')
    (hx : Matches (Answers R) x.run y.run) :
    Matches (Answers R) (x.adapt f).run (y.adapt f).run := by
  refine map hx fun answers => ?_
  cases answers with
  | ok h => exact .ok h
  | error e => exact .error _

end Naming.Matches

open Naming (Matches)

/-! ## Templates -/

namespace Templates

/-- The templates with another directory of the project, or with none. -/
def inDirectory (t : Templates) (directory : Option String) : Templates := { t with directory }

variable (t : Templates) {d : String} (clean : Text.contains d Template.directoryMarker = false)
include clean

/-- A literal is the same once the directory is placed. -/
theorem matches_expand (text : String) :
    Matches (SameIn d) ((t.inDirectory (some d)).expand text) ((t.inDirectory none).expand text) :=
  .bind (.refl _) fun same => .pure (by
    rw [same]
    exact Template.placeDirectory_placeDirectory clean)

theorem matches_resolve (type : TypeExpr) (context : Template.Context) :
    Matches (Answers (SameIn d)) ((t.inDirectory (some d)).resolve type context).run
      ((t.inDirectory none).resolve type context).run := by
  have found : (t.inDirectory (some d)).lookup type context = t.lookup type context := rfl
  have found' : (t.inDirectory none).lookup type context = t.lookup type context := rfl
  rw [resolve, resolve, found, found']
  cases t.lookup type context with
  | ok template => exact .lift (t.matches_expand clean template)
  | error missing => exact .error missing

theorem matches_receiver (callable : String) :
    Matches (Option.Rel (SameIn d)) ((t.inDirectory (some d)).receiver? callable)
      ((t.inDirectory none).receiver? callable) := by
  have found : (t.inDirectory (some d)).receiverTemplate? callable
      = t.receiverTemplate? callable := rfl
  have found' : (t.inDirectory none).receiverTemplate? callable
      = t.receiverTemplate? callable := rfl
  rw [receiver?, receiver?, found, found']
  cases t.receiverTemplate? callable with
  | some template => exact .map (t.matches_expand clean template) .some
  | none => exact .pure .none

end Templates

/-! ## Calls -/

namespace Operator

variable {d : String} {op : Operator} {receiver : String} {args args' : List String}

/-- The operands stand between characters that no marker has. -/
theorem spell_matches (h : SameLines d args args') :
    Option.Rel (SameIn d) (op.spell receiver args) (op.spell receiver args') := by
  by_cases right : args.length = op.arity
  · have right' : args'.length = op.arity := by rw [← h.length, right]
    cases op with
    | binary sign =>
      obtain ⟨a, rfl⟩ := List.length_eq_one_iff.1 right
      obtain ⟨b, rfl⟩ := List.length_eq_one_iff.1 right'
      exact .some (.append (by decide) (.refl _) (SameLines.cons_iff.1 h).1)
    | getItem =>
      obtain ⟨a, rfl⟩ := List.length_eq_one_iff.1 right
      obtain ⟨b, rfl⟩ := List.length_eq_one_iff.1 right'
      exact .some (.ended (by decide) (.append (by decide) (.refl _) (SameLines.cons_iff.1 h).1))
    | setItem =>
      obtain ⟨a, value, rfl⟩ := List.length_eq_two.1 right
      obtain ⟨b, value', rfl⟩ := List.length_eq_two.1 right'
      obtain ⟨index, values⟩ := SameLines.cons_iff.1 h
      exact .some (.append (by decide) (.append (by decide) (.refl _) index)
        (SameLines.cons_iff.1 values).1)
    | contains =>
      obtain ⟨a, rfl⟩ := List.length_eq_one_iff.1 right
      obtain ⟨b, rfl⟩ := List.length_eq_one_iff.1 right'
      exact .some (.append (by decide) (SameLines.cons_iff.1 h).1 (.refl _))
  · have unspelled {args : List String} (wrong : args.length ≠ op.arity) :
        op.spell receiver args = none := by
      rw [← Option.not_isSome_iff_eq_none, spell_isSome_iff]
      exact wrong
    rw [unspelled right, unspelled (h.length ▸ right)]
    exact .none

end Operator

namespace CallForm

variable (form : CallForm) (t : Templates) {d : String}

/-- Two tokens with their setup lines are the same once the directory is placed. -/
def SameToken (directory : String) (one other : List String × String) : Prop :=
  SameLines directory one.1 other.1 ∧ SameIn directory one.2 other.2

/-- Two lists of written arguments with their setup lines are so. -/
def SameArguments (directory : String) (one other : List String × List String) : Prop :=
  SameLines directory one.1 other.1 ∧ SameLines directory one.2 other.2

theorem answers_expression {args args' : List String} (h : SameLines d args args') :
    Answers (SameIn d) (form.expression args) (form.expression args') := by
  have called (front : String) :
      SameIn d (front ++ "(" ++ ",".intercalate args ++ ")")
        (front ++ "(" ++ ",".intercalate args' ++ ")") :=
    .ended (by decide) (.append (by decide) (.refl front) (.intercalate (by decide) h))
  rw [expression, expression]
  cases form.receiver with
  | none => exact .ok (called form.name)
  | some receiver =>
    cases Operator.ofName? form.name with
    | none => exact .ok (called (receiver ++ "." ++ form.name))
    | some op =>
      have spelled : Option.Rel (SameIn d) (op.spell receiver args) (op.spell receiver args') :=
        op.spell_matches h
      simp only [← h.length]
      generalize op.spell receiver args = one at spelled
      generalize op.spell receiver args' = other at spelled
      cases spelled with
      | some call => exact .ok call
      | none => exact .error _

theorem written_matches (arg : Argument) {token token' : String} (h : SameIn d token token') :
    SameIn d (written arg token) (written arg token') := by
  rw [written, written]
  cases arg.param.isKeyword with
  | true => exact .append (by decide) (.refl _) h
  | false => exact h

theorem line_matches (returnAs : Option String) {call call' : String} (h : SameIn d call call') :
    SameIn d (line returnAs call) (line returnAs call') := by
  cases returnAs with
  | some var => exact .append (by decide) (.refl var) h
  | none => exact h

section

variable (clean : Text.contains d Template.directoryMarker = false)
include clean

theorem matches_token (inline : Bool) (arg : Argument) :
    Matches (Answers (SameToken d)) (form.token (t.inDirectory (some d)) inline arg).run
      (form.token (t.inDirectory none) inline arg).run := by
  rw [token, token]
  cases form.bound.lookup arg.param.name with
  | some token => exact .ok ⟨.refl _, .refl _⟩
  | none =>
    refine .bind_except (.adapt _ (t.matches_resolve clean ..)) fun literal => ?_
    cases inline with
    | true => exact .ok ⟨.refl _, literal⟩
    | false =>
      refine .bind_except (.lift (.refl Naming.draw)) fun {var _} same => ?_
      cases same
      exact .ok ⟨.cons (.append (by decide) (.refl var) literal) (.refl []), .refl var⟩

theorem matches_arguments (inline : Bool) (args : List Argument) :
    Matches (Answers (SameArguments d)) (form.arguments (t.inDirectory (some d)) inline args).run
      (form.arguments (t.inDirectory none) inline args).run := by
  induction args with
  | nil => exact .ok ⟨.refl [], .refl []⟩
  | cons arg rest ih =>
    refine .bind_except (form.matches_token t clean inline arg) fun ⟨setup, token⟩ => ?_
    refine .bind_except ih fun ⟨setups, others⟩ => ?_
    exact .ok ⟨.append setup setups, .cons (written_matches arg token) others⟩

theorem matches_render (c : Combination) (returnAs : Option String) (inline : Bool) :
    Matches (Answers (SameLines d)) (form.render (t.inDirectory (some d)) c returnAs inline).run
      (form.render (t.inDirectory none) c returnAs inline).run := by
  refine .bind_except (form.matches_arguments t clean inline c.args) fun {one other} same => ?_
  have expressed := form.answers_expression same.2
  simp only
  generalize form.expression one.2 = call at expressed
  generalize form.expression other.2 = call' at expressed
  cases expressed with
  | ok call => exact .ok (.append same.1 (.cons (line_matches returnAs call) (.refl [])))
  | error fault => exact .error fault

theorem matches_renderAll (combinations : List Combination) :
    Matches (Answers (SameLines d)) (form.renderAll (t.inDirectory (some d)) combinations).run
      (form.renderAll (t.inDirectory none) combinations).run := by
  induction combinations with
  | nil => exact .ok (.refl [])
  | cons c rest ih =>
    refine .bind_except (.lift (form.matches_render t clean c none false)) fun rendered => ?_
    cases rendered with
    | ok lines => exact .bind_except ih fun others => .ok (.append lines others)
    | error fault =>
      by_cases missing : fault.isMissing = true
      · simp only [if_pos missing]
        exact ih
      · simp only [if_neg missing]
        exact .error fault

end

end CallForm

/-! ## Usages -/

section

variable (t : Templates) {d : String} (clean : Text.contains d Template.directoryMarker = false)
include clean

theorem MethodRef.matches_usages (m : MethodRef) (type receiver : String)
    (overloads : List Signature) :
    Matches (Answers (SameLines d)) (m.usages (t.inDirectory (some d)) type receiver overloads).run
      (m.usages (t.inDirectory none) type receiver overloads).run := by
  induction overloads with
  | nil => exact .ok (.refl [])
  | cons s rest ih =>
    exact .bind_except (CallForm.matches_renderAll _ t clean _) fun lines =>
      .bind_except ih fun others => .ok (.append lines others)

theorem matches_usagesOf (type receiver : String) (methods : List MethodRef) :
    Matches (Answers (SameLines d)) (usagesOf (t.inDirectory (some d)) type receiver methods).run
      (usagesOf (t.inDirectory none) type receiver methods).run := by
  induction methods with
  | nil => exact .ok (.refl [])
  | cons m rest ih =>
    have needs (directory : Option String) : m.needsReceiver (t.inDirectory directory) type
        = m.needsReceiver t type := rfl
    rw [usagesOf, usagesOf, needs, needs]
    by_cases own : m.needsReceiver t type = true
    · rw [if_pos own, if_pos own]
      exact ih
    · rw [if_neg own, if_neg own]
      exact .bind_except (m.matches_usages t clean ..) fun lines =>
        .bind_except ih fun others => .ok (.append lines others)

theorem Catalog.matches_usages (c : Catalog) (type : TypeExpr) (receiver : String) :
    Matches (Answers (SameLines d)) (c.usages (t.inDirectory (some d)) type receiver).run
      (c.usages (t.inDirectory none) type receiver).run := by
  rw [usages, usages]
  cases c.owner? type with
  | none => exact .ok (.refl [])
  | some owner => exact matches_usagesOf t clean ..

end

end SignatureAudit
