import SignatureAudit.Audit.Coverage
import Mathlib.Data.List.GetD
import Mathlib.Data.List.Nodup
import Mathlib.Data.Nat.ModEq
import Mathlib.Tactic.NormNum.GCD

/-!
# Names that are drawn once

`n.Later n'` says that some names of the supply `n` have been drawn and `n'` is left. Expanding
templates, rendering calls and listing usages leave a later supply than they found (`Draws`): no
name is handed out twice, and no name comes from elsewhere.

Names are told apart by their numbers in the supply. Names that were drawn on the way from one
supply to a later one (`NameSupply.Drawn`) differ if the supply repeats none up to there
(`NameSupply.Distinct`), and so do names that were drawn one part behind another. The supplies that
start from a seed repeat no name before all have been drawn (`NameSupply.distinct_ofSeed`): their
step is coprime to the number of names.
-/

namespace SignatureAudit

/-! ## Drawing -/

/-- The second supply is what is left of the first after some draws. -/
structure NameSupply.Later (n n' : NameSupply) : Prop where
  name : n'.name = n.name
  drawn : n.drawn ≤ n'.drawn

namespace NameSupply.Later

theorem refl (n : NameSupply) : n.Later n := ⟨rfl, Nat.le_refl _⟩

theorem trans {n n' n'' : NameSupply} (h : n.Later n') (h' : n'.Later n'') : n.Later n'' :=
  ⟨h'.name.trans h.name, Nat.le_trans h.drawn h'.drawn⟩

end NameSupply.Later

/-- The second part of a computation goes on with the names that the first left. -/
theorem Naming.run_bind {α β : Type} (x : Naming α) (f : α → Naming β) (n : NameSupply) :
    (x >>= f).run n = (f (x.run n).1).run (x.run n).2 := rfl

/-- All that the computation does to the names is to draw some. -/
structure Naming.Draws {α : Type} (x : Naming α) : Prop where
  later : ∀ n : NameSupply, n.Later (x.run n).2

namespace Naming.Draws

variable {ε ε' α β : Type}

theorem pure (a : α) : Draws (Pure.pure a : Naming α) := ⟨fun n => .refl n⟩

theorem draw : Draws Naming.draw := ⟨fun _ => ⟨rfl, Nat.le_succ _⟩⟩

theorem bind {x : Naming α} {f : α → Naming β} (hx : Draws x) (hf : ∀ a, Draws (f a)) :
    Draws (x >>= f) :=
  ⟨fun n => (hx.later n).trans ((hf (x.run n).1).later (x.run n).2)⟩

theorem map {x : Naming α} (f : α → β) (hx : Draws x) : Draws (f <$> x) :=
  ⟨fun n => hx.later n⟩

/-- Names drawn in front of an error stay drawn. -/
theorem bind_except {x : ExceptT ε Naming α} {f : α → ExceptT ε Naming β} (hx : Draws x.run)
    (hf : ∀ a, Draws (f a).run) : Draws (x >>= f).run := by
  have split : (x >>= f).run = x.run >>= ExceptT.bindCont f := rfl
  rw [split]
  refine bind hx fun answer => ?_
  cases answer with
  | ok a => exact hf a
  | error e => exact pure _

theorem lift {x : Naming α} (hx : Draws x) : Draws (ExceptT.lift x : ExceptT ε Naming α).run :=
  map Except.ok hx

theorem adapt {x : ExceptT ε Naming α} (f : ε → ε') (hx : Draws x.run) :
    Draws (x.adapt f).run := map (Except.mapError f) hx

end Naming.Draws

open Naming (Draws)

/-! ## Templates -/

theorem Template.draws_joinFresh (pieces : List String) : Draws (Template.joinFresh pieces) := by
  induction pieces with
  | nil => exact .pure _
  | cons piece rest ih =>
    cases rest with
    | nil => exact .pure _
    | cons next rest => exact .bind .draw fun _ => .bind ih fun _ => .pure _

theorem Template.draws_expand (directory : Option String) (text : String) :
    Draws (Template.expand directory text) := by
  refine .bind (draws_joinFresh _) fun named => ?_
  cases directory with
  | none => exact .pure _
  | some directory => exact .pure _

namespace Templates

variable (t : Templates)

theorem draws_resolve (type : TypeExpr) (context : Template.Context) :
    Draws (t.resolve type context).run := by
  rw [resolve]
  cases t.lookup type context with
  | ok template => exact .lift (Template.draws_expand ..)
  | error missing => exact .pure _

theorem draws_receiver (callable : String) : Draws (t.receiver? callable) := by
  rw [receiver?]
  cases t.receiverTemplate? callable with
  | some template => exact .map some (Template.draws_expand ..)
  | none => exact .pure _

end Templates

/-! ## Calls -/

namespace CallForm

variable (form : CallForm) (templates : Templates)

theorem draws_token (inline : Bool) (arg : Argument) :
    Draws (form.token templates inline arg).run := by
  rw [token]
  cases form.bound.lookup arg.param.name with
  | some token => exact .pure _
  | none =>
    refine .bind_except (.adapt _ (templates.draws_resolve ..)) fun literal => ?_
    cases inline with
    | true => exact .pure _
    | false => exact .bind_except (.lift .draw) fun _ => .pure _

theorem draws_arguments (inline : Bool) (args : List Argument) :
    Draws (form.arguments templates inline args).run := by
  induction args with
  | nil => exact .pure _
  | cons arg rest ih =>
    exact .bind_except (form.draws_token templates inline arg) fun _ =>
      .bind_except ih fun _ => .pure _

theorem draws_render (c : Combination) (returnAs : Option String) (inline : Bool) :
    Draws (form.render templates c returnAs inline).run := by
  refine .bind_except (form.draws_arguments templates inline c.args) fun written => ?_
  obtain ⟨setup, args⟩ := written
  simp only
  cases form.expression args with
  | ok call => exact .pure _
  | error fault => exact .pure _

theorem draws_renderAll (combinations : List Combination) :
    Draws (form.renderAll templates combinations).run := by
  induction combinations with
  | nil => exact .pure _
  | cons c rest ih =>
    refine .bind_except (.lift (form.draws_render templates c none false)) fun rendered => ?_
    cases rendered with
    | ok lines => exact .bind_except ih fun _ => .pure _
    | error fault =>
      by_cases missing : fault.isMissing = true
      · simp only [if_pos missing]
        exact ih
      · simp only [if_neg missing]
        exact .pure _

end CallForm

/-! ## Usages -/

theorem MethodRef.draws_usages (m : MethodRef) (templates : Templates) (type receiver : String)
    (overloads : List Signature) :
    Draws (m.usages templates type receiver overloads).run := by
  induction overloads with
  | nil => exact .pure _
  | cons s rest ih =>
    exact .bind_except (CallForm.draws_renderAll ..) fun _ => .bind_except ih fun _ => .pure _

theorem draws_usagesOf (templates : Templates) (type receiver : String)
    (methods : List MethodRef) : Draws (usagesOf templates type receiver methods).run := by
  induction methods with
  | nil => exact .pure _
  | cons m rest ih =>
    rw [usagesOf]
    by_cases own : m.needsReceiver templates type = true
    · rw [if_pos own]
      exact ih
    · rw [if_neg own]
      exact .bind_except (m.draws_usages ..) fun _ => .bind_except ih fun _ => .pure _

theorem Catalog.draws_usages (c : Catalog) (templates : Templates) (type : TypeExpr)
    (receiver : String) : Draws (c.usages templates type receiver).run := by
  rw [usages]
  cases c.owner? type with
  | none => exact .pure _
  | some owner => exact draws_usagesOf _ _ _ _

/-- The setup line of a method that a value is passed to. -/
theorem Audit.draws_calleeForm (a : Audit) (s : Signature) : Draws (a.calleeForm s).run := by
  rw [calleeForm]
  cases s.receiver with
  | none => exact .pure _
  | some receiver =>
    refine .bind_except (.lift (a.templates.draws_receiver _)) fun own => ?_
    cases own with
    | some literal => exact .pure _
    | none => exact .bind_except (a.templates.draws_resolve _ _) fun _ => .pure _

theorem Audit.draws_slotStep (a : Audit) (type : TypeExpr) (setup : List String)
    (var origin : String) (s : Signature) (slot : Slot) :
    Draws (a.slotStep type setup var origin s slot) := by
  refine .bind (a.draws_calleeForm s) fun found => ?_
  cases found with
  | error missing => exact .pure _
  | ok found =>
    refine .bind (CallForm.draws_render ..) fun rendered => ?_
    cases rendered with
    | ok call => exact .pure _
    | error fault => exact .pure _

/-! ## Different names -/

namespace NameSupply

variable {n n' n'' : NameSupply} {vars front back : List String}

/-- The names have been drawn on the way from the first supply to the second, each of them once. -/
def Drawn (n n' : NameSupply) (vars : List String) : Prop :=
  ∃ numbers : List Nat, numbers.Nodup ∧ (∀ i ∈ numbers, n.drawn ≤ i ∧ i < n'.drawn) ∧
    vars = numbers.map n.name

namespace Drawn

theorem nil (n n' : NameSupply) : Drawn n n' [] :=
  ⟨[], List.nodup_nil, List.forall_mem_nil _, rfl⟩

/-- The next name is drawn. -/
theorem draw (n : NameSupply) : Drawn n (Naming.draw.run n).2 [(Naming.draw.run n).1] := by
  refine ⟨[n.drawn], List.nodup_singleton _, fun i hi => ?_, rfl⟩
  obtain rfl := List.mem_singleton.1 hi
  exact ⟨Nat.le_refl _, Nat.lt_succ_self _⟩

/-- They have been drawn on any longer way. -/
theorem mono {m m' : NameSupply} (first : m.Later n) (last : n'.Later m') (h : Drawn n n' vars) :
    Drawn m m' vars := by
  obtain ⟨numbers, once, among, rfl⟩ := h
  refine ⟨numbers, once, fun i hi => ?_, by rw [first.name]⟩
  obtain ⟨lower, upper⟩ := among i hi
  exact ⟨Nat.le_trans first.drawn lower, Nat.lt_of_lt_of_le upper last.drawn⟩

/-- Names drawn in one part differ from those drawn in a later one, in whichever order the two parts
are written down. -/
theorem append (first : n.Later n') (last : n'.Later n'') (hfront : Drawn n n' front)
    (hback : Drawn n' n'' back) : Drawn n n'' (front ++ back) ∧ Drawn n n'' (back ++ front) := by
  obtain ⟨numbers, once, among, rfl⟩ := hfront
  obtain ⟨numbers', once', among', rfl⟩ := hback
  -- the second supply lies between the numbers of the two parts
  have apart : numbers.Disjoint numbers' := fun i hi hi' => by
    have := (among i hi).2
    have := (among' i hi').1
    omega
  have within : ∀ i ∈ numbers, n.drawn ≤ i ∧ i < n''.drawn := fun i hi =>
    ⟨(among i hi).1, Nat.lt_of_lt_of_le (among i hi).2 last.drawn⟩
  have within' : ∀ i ∈ numbers', n.drawn ≤ i ∧ i < n''.drawn := fun i hi =>
    ⟨Nat.le_trans first.drawn (among' i hi).1, (among' i hi).2⟩
  rw [first.name]
  constructor
  · exact ⟨numbers ++ numbers', List.nodup_append'.2 ⟨once, once', apart⟩,
      List.forall_mem_append.2 ⟨within, within'⟩, List.map_append.symm⟩
  · exact ⟨numbers' ++ numbers, List.nodup_append'.2 ⟨once', once, fun i hi hi' => apart hi' hi⟩,
      List.forall_mem_append.2 ⟨within', within⟩, List.map_append.symm⟩

end Drawn

/-- The names that are drawn before the given number of draws have ten characters, and none comes
twice. -/
structure Distinct (names : NameSupply) (last : Nat) : Prop where
  ne : ∀ i j, names.drawn ≤ i → i < j → j < last → names.name i ≠ names.name j
  length : ∀ i, names.drawn ≤ i → i < last → (names.name i).length = 10

namespace Distinct

variable {names : NameSupply}

theorem nodup (distinct : names.Distinct n.drawn) (h : names.Drawn n vars) : vars.Nodup := by
  obtain ⟨numbers, once, among, rfl⟩ := h
  refine once.map_on fun i hi j hj same => ?_
  rcases Nat.lt_trichotomy i j with less | eq | greater
  · exact absurd same (distinct.ne i j (among i hi).1 less (among j hj).2)
  · exact eq
  · exact absurd same.symm (distinct.ne j i (among j hj).1 greater (among i hi).2)

end Distinct

/-! ## Names from a seed -/

theorem length_spell (length number : Nat) : (spell length number).length = length := by
  induction length generalizing number with
  | zero => rfl
  | succ length ih => exact congrArg (· + 1) (ih _)

/-- Numbers below 52 have letters of their own. -/
theorem letter_inj {i j : Nat} (hi : i < 52) (hj : j < 52)
    (same : letters.getD i 'a' = letters.getD j 'a') : i = j := by
  have once : letters.Nodup := by decide
  have count : letters.length = 52 := by decide
  rw [← count] at hi hj
  rw [List.getD_eq_getElem _ _ hi, List.getD_eq_getElem _ _ hj] at same
  exact (once.getElem_inj_iff).1 same

/-- The letters of a number tell it from all others that have no more letters. -/
theorem spell_inj {length i j : Nat} (hi : i < 52 ^ length) (hj : j < 52 ^ length)
    (same : spell length i = spell length j) : i = j := by
  induction length generalizing i j with
  | zero => omega
  | succ length ih =>
    obtain ⟨first, rest⟩ := List.cons.inj same
    have low : i % 52 = j % 52 :=
      letter_inj (Nat.mod_lt _ (by omega)) (Nat.mod_lt _ (by omega)) first
    rw [Nat.pow_succ'] at hi hj
    have high : i / 52 = j / 52 :=
      ih (Nat.div_lt_of_lt_mul hi) (Nat.div_lt_of_lt_mul hj) rest
    rw [← Nat.div_add_mod i 52, ← Nat.div_add_mod j 52, low, high]

/-- Below the modulus, the steps of a progression differ if the step is coprime to the modulus. -/
theorem progression_inj {start step size i j : Nat} (coprime : Nat.Coprime size step)
    (hi : i < size) (hj : j < size)
    (same : (start + i * step) % size = (start + j * step) % size) : i = j := by
  have steps : i * step ≡ j * step [MOD size] := Nat.ModEq.add_left_cancel' start same
  exact (Nat.ModEq.cancel_right_of_coprime coprime steps).eq_of_lt_of_lt hi hj

theorem name_ofSeed (seed i : Nat) : (ofSeed seed).name i
    = String.ofList (spell 10 ((seed + i * 88172645463325253) % Nat.pow 52 10)) := rfl

theorem distinct_ofSeed (seed : Nat) {last : Nat} (few : last ≤ 52 ^ 10) :
    (ofSeed seed).Distinct last where
  ne i j _ less before same := by
    have hj : j < 52 ^ 10 := Nat.lt_of_lt_of_le before few
    have size : Nat.pow 52 10 = 52 ^ 10 := rfl
    rw [name_ofSeed, name_ofSeed, size] at same
    have positive : 0 < 52 ^ 10 := Nat.pow_pos (by omega)
    have numbers := spell_inj (Nat.mod_lt _ positive) (Nat.mod_lt _ positive)
      (String.ofList_injective same)
    -- the step is odd and no multiple of 13
    have coprime : Nat.Coprime (52 ^ 10) 88172645463325253 := by norm_num
    exact Nat.ne_of_lt less (progression_inj coprime (Nat.lt_trans less hj) hj numbers)
  length i _ _ := by rw [name_ofSeed, String.length_ofList, length_spell]

end NameSupply

end SignatureAudit
