import SignatureAudit.Call.Slot
import SignatureAudit.Proofs.Call.Combination
import SignatureAudit.Proofs.Hierarchy.Fit

/-!
# Which parameters slots belong to

A slot is looked for among the arguments of combinations, and these have a stand-in where the
declaration is unconstrained. So a parameter can be found in two ways: its declared type admits the
value, or one of its arms is unconstrained and the *stand-in* admits the value
(`Parameter.CanGet`). Both ways lead to a slot, and no other does (`isSome_slot?_iff`).

The second way is what a declaration alone does not give: a number is passed where anything goes,
although an unconstrained declaration is no fit for it.
-/

namespace SignatureAudit

/-- The declared type admits the value. -/
def Parameter.Admits (h : Hierarchy) (value : TypeExpr) (p : Parameter) : Prop :=
  (h.fit? p.type value).isSome

/-- The parameter has an unconstrained arm, and its stand-in admits the value. -/
def Parameter.AdmitsForAny (h : Hierarchy) (value : TypeExpr) (p : Parameter) : Prop :=
  .any ∈ p.type.arms ∧ (h.fit? .standIn value).isSome

/-- Some argument that the parameter offers admits the value. -/
def Parameter.CanGet (h : Hierarchy) (value : TypeExpr) (p : Parameter) : Prop :=
  ∃ arg, p.Offers arg ∧ (h.fit? arg.type value).isSome

namespace Signature

variable {h : Hierarchy} {value : TypeExpr} {s : Signature}

/-- What a signature that was read promises about its parameters: their types were read, and none
that is passed by its place stands behind one that is always left out. -/
structure Regular (s : Signature) : Prop where
  read : ∀ p ∈ s.params, ∃ text, TypeExpr.read text = .ok p.type
  behind : KeywordsBehindAbsent s.params

/-- A slot exists for the values that some declared type admits, and it is for such a parameter. -/
structure SlotsAsDeclared (h : Hierarchy) (value : TypeExpr) (s : Signature) : Prop where
  found : (s.slot? h value).isSome ↔ ∃ p ∈ s.params, p.Admits h value
  declared : ∀ slot, s.slot? h value = some slot →
    ∃ p ∈ s.params, p.name = slot.param ∧ p.Admits h value

/-! ## Arms -/

theorem canGet_iff (p : Parameter) :
    p.CanGet h value ↔ p.Admits h value ∨ p.AdmitsForAny h value := by
  rw [Parameter.CanGet, Parameter.Admits, Parameter.AdmitsForAny, Hierarchy.isSome_fit?_iff p.type]
  constructor
  · rintro ⟨arg, ⟨-, arm, harm, -, htype⟩, hfit⟩
    rw [htype, TypeExpr.concrete] at hfit
    by_cases free : arm = .any
    · rw [if_pos free] at hfit
      exact .inr ⟨free ▸ harm, hfit⟩
    · rw [if_neg free] at hfit
      exact .inl ⟨arm, harm, hfit⟩
  · rintro (⟨arm, harm, hfit⟩ | ⟨harm, hfit⟩)
    -- an arm that fits is neither absent nor unconstrained
    · have present : arm ≠ .none := fun e => by
        rw [e] at hfit
        cases hfit
      have constrained : arm ≠ .any := fun e => by
        rw [e] at hfit
        cases hfit
      refine ⟨⟨p, arm.concrete⟩, ⟨rfl, arm, harm, present, rfl⟩, ?_⟩
      rw [TypeExpr.concrete, if_neg constrained]
      exact hfit
    · exact ⟨⟨p, .standIn⟩, ⟨rfl, .any, harm, TypeExpr.noConfusion, rfl⟩, hfit⟩

/-! ## Slots -/

/-- A slot is an argument of a combination that the value fits. -/
theorem exists_arg_of_slot {slot : Slot} (found : s.slot? h value = some slot) :
    ∃ c ∈ s.combinations, ∃ arg ∈ c.args,
      arg.param.name = slot.param ∧ (h.fit? arg.type value).isSome := by
  rw [slot?_eq] at found
  obtain ⟨c, hc, hslot⟩ := List.exists_of_findSome?_eq_some found
  rw [Combination.slot?, Option.map_eq_some_iff] at hslot
  obtain ⟨⟨param, fit⟩, haccepts, rfl⟩ := hslot
  obtain ⟨arg, harg, hfit⟩ := List.exists_of_findSome?_eq_some haccepts
  obtain ⟨fit, hfit, heq⟩ := Option.map_eq_some_iff.1 hfit
  cases heq
  exact ⟨c, hc, arg, harg, rfl, Option.isSome_of_eq_some hfit⟩

theorem isSome_slot?_of_arg {c : Combination} (hc : c ∈ s.combinations) {arg : Argument}
    (harg : arg ∈ c.args) (hfit : (h.fit? arg.type value).isSome) : (s.slot? h value).isSome := by
  rw [slot?_eq, List.findSome?_isSome_iff]
  refine ⟨c, hc, ?_⟩
  rw [Combination.slot?, Option.isSome_map, Combination.accepting?, List.findSome?_isSome_iff]
  exact ⟨arg, harg, by rw [Option.isSome_map]; exact hfit⟩

/-- A found slot is for a parameter that can get the value. -/
theorem exists_canGet_of_slot {slot : Slot} (found : s.slot? h value = some slot) :
    ∃ p ∈ s.params, p.name = slot.param ∧ p.CanGet h value := by
  obtain ⟨c, hc, arg, harg, hname, hfit⟩ := exists_arg_of_slot found
  obtain ⟨p, hp, offers⟩ := offers_of_mem_combinations hc harg
  exact ⟨p, hp, offers.1 ▸ hname, arg, offers, hfit⟩

theorem isSome_slot?_iff (regular : s.Regular) :
    (s.slot? h value).isSome ↔ ∃ p ∈ s.params, p.CanGet h value := by
  constructor
  · intro found
    obtain ⟨slot, found⟩ := Option.isSome_iff_exists.1 found
    obtain ⟨p, hp, -, can⟩ := exists_canGet_of_slot found
    exact ⟨p, hp, can⟩
  · rintro ⟨p, hp, arg, offers, hfit⟩
    have flat : ∀ p ∈ s.params, p.type.Flattened := fun p hp => by
      obtain ⟨text, read⟩ := regular.read p hp
      exact TypeExpr.flattened_of_read read
    obtain ⟨c, hc, harg⟩ := exists_combination_of_offers flat regular.behind hp offers
    exact isSome_slot?_of_arg hc harg hfit

/-! ## Slots and declarations -/

/-- Slots are as declared if no found parameter is one that the stand-in alone lets through. -/
theorem slotsAsDeclared_of_declared (regular : s.Regular)
    (declared : (∃ p ∈ s.params, p.AdmitsForAny h value) → ∀ slot, s.slot? h value = some slot →
      ∃ p ∈ s.params, p.name = slot.param ∧ p.Admits h value) :
    s.SlotsAsDeclared h value := by
  have all (slot : Slot) (found : s.slot? h value = some slot) :
      ∃ p ∈ s.params, p.name = slot.param ∧ p.Admits h value := by
    obtain ⟨p, hp, hname, can⟩ := exists_canGet_of_slot found
    rcases (canGet_iff p).1 can with admits | for_any
    · exact ⟨p, hp, hname, admits⟩
    · exact declared ⟨p, hp, for_any⟩ slot found
  refine ⟨⟨fun found => ?_, ?_⟩, all⟩
  · obtain ⟨slot, found⟩ := Option.isSome_iff_exists.1 found
    obtain ⟨p, hp, -, admits⟩ := all slot found
    exact ⟨p, hp, admits⟩
  · rintro ⟨p, hp, admits⟩
    exact (isSome_slot?_iff regular).2 ⟨p, hp, (canGet_iff p).2 (.inl admits)⟩

/-- A function that takes anything. -/
def takesAnything : Signature := ⟨"f", none, [⟨"x", .any, .positional⟩], .none⟩

theorem regular_takesAnything : takesAnything.Regular where
  read p hp := by
    obtain rfl := List.eq_of_mem_singleton hp
    exact ⟨"Any", TypeExpr.read_any⟩
  behind := List.pairwise_singleton ..

/-- **When slots are as declared.** For every signature, they are so exactly for the values that the
stand-in does not admit. For one signature, a slot exists if some parameter admits the value, as it
is declared or by the stand-in for an unconstrained arm, and it is for such a parameter. -/
theorem slotsAsDeclared_iff (h : Hierarchy) (value : TypeExpr) :
    ((∀ s : Signature, s.Regular → s.SlotsAsDeclared h value) ↔ h.fit? .standIn value = none) ∧
      ∀ s : Signature, s.Regular →
        ((s.slot? h value).isSome ↔
          ∃ p ∈ s.params, p.Admits h value ∨ p.AdmitsForAny h value) ∧
        (∀ slot, s.slot? h value = some slot →
          ∃ p ∈ s.params, p.name = slot.param ∧ (p.Admits h value ∨ p.AdmitsForAny h value)) ∧
        (s.SlotsAsDeclared h value ↔
          ((∃ p ∈ s.params, p.AdmitsForAny h value) → ∀ slot, s.slot? h value = some slot →
            ∃ p ∈ s.params, p.name = slot.param ∧ p.Admits h value)) := by
  refine ⟨⟨fun all => ?_, fun refused s regular => ?_⟩, fun s regular => ⟨?_, ?_, ?_⟩⟩
  -- a function that takes anything has a slot for all that the stand-in admits
  · refine Option.not_isSome_iff_eq_none.1 fun admitted => ?_
    have for_any : (Parameter.mk "x" .any .positional).AdmitsForAny h value :=
      ⟨List.mem_singleton_self _, admitted⟩
    have found := (isSome_slot?_iff regular_takesAnything).2
      ⟨_, List.mem_singleton_self _, (canGet_iff _).2 (.inr for_any)⟩
    obtain ⟨p, hp, admits⟩ := (all takesAnything regular_takesAnything).found.1 found
    obtain rfl := List.eq_of_mem_singleton hp
    cases admits
  · refine slotsAsDeclared_of_declared regular fun for_any => ?_
    obtain ⟨p, -, -, admitted⟩ := for_any
    rw [refused] at admitted
    cases admitted
  · simp only [isSome_slot?_iff regular, canGet_iff]
  · intro slot found
    simp only [← canGet_iff]
    exact exists_canGet_of_slot found
  · exact ⟨fun as_declared _ => as_declared.declared, slotsAsDeclared_of_declared regular⟩

/-- Numbers are the only objects. -/
def numbers : Hierarchy := ⟨[("Number", ["Number"])]⟩

/-- A function of a number and of anything. -/
def takesNumber : Signature :=
  ⟨"g", none, [⟨"n", .named "Number", .positional⟩, ⟨"x", .any, .positional⟩], .none⟩

theorem slotsAsDeclared_takesNumber :
    takesNumber.Regular ∧ (takesNumber.slot? numbers (.named "Number")).map (·.param) = some "n" ∧
      takesNumber.SlotsAsDeclared numbers (.named "Number") := by
  have regular : takesNumber.Regular := by
    refine ⟨List.forall_mem_cons.2 ⟨⟨"Number", TypeExpr.read_number⟩, ?_⟩, ?_⟩
    · exact List.forall_mem_singleton.2 ⟨"Any", TypeExpr.read_any⟩
    · exact List.pairwise_pair.2 TypeExpr.noConfusion
  have first : (takesNumber.slot? numbers (.named "Number")).map (·.param) = some "n" := by decide
  refine ⟨regular, first, ((slotsAsDeclared_iff numbers _).2 _ regular).2.2.2 ?_⟩
  intro _ slot found
  rw [found, Option.map_some, Option.some.injEq] at first
  refine ⟨_, List.mem_cons_self, first.symm, ?_⟩
  show (numbers.fit? (.named "Number") (.named "Number")).isSome = true
  decide

/-- A parameter that takes anything is chosen for a number. -/
theorem slot_of_takesAnything :
    Hierarchy.ofRows [("Number", none)] = .ok numbers ∧ takesAnything.Regular ∧
      (takesAnything.slot? numbers (.named "Number")).map (·.param) = some "x" ∧
      numbers.fit? .any (.named "Number") = none ∧
      ¬takesAnything.SlotsAsDeclared numbers (.named "Number") := by
  have built : Hierarchy.ofRows [("Number", none)] = .ok numbers := by
    rw [Hierarchy.ofRows_eq (by decide)]
    rfl
  have found : (takesAnything.slot? numbers (.named "Number")).isSome = true := by decide
  refine ⟨built, regular_takesAnything, by decide, rfl, fun as_declared => ?_⟩
  obtain ⟨p, hp, admits⟩ := as_declared.found.1 found
  obtain rfl := List.eq_of_mem_singleton hp
  cases admits

end Signature

end SignatureAudit
