import SignatureAudit.Proofs.Call.Slot
import SignatureAudit.Proofs.TypeExpr.Grammar
import Mathlib.Algebra.BigOperators.Group.List.Basic
import Mathlib.Data.List.Forall2
import Mathlib.Data.List.Induction

/-!
# Combinations as choices of arms

A *choice* names one arm of each parameter by its number. Combinations are worked out parameter by
parameter, each combination so far branching into the arms of the next parameter. What comes out is
one combination for each choice, in the lexicographic order of the choices
(`combinations_eq_map_choices`, `pairwise_choices`), so they are as many as the product of the
numbers of arms.

Which arguments a combination has can be read off its choice at once (`argumentsOf`): an argument is
left out if the absent arm is chosen for it, and if it is passed by its place behind such a choice.
The flag that the pushes carry along only remembers whether the absent arm was chosen
(`foldl_push`).
-/

namespace SignatureAudit

/-- A chosen type for a parameter. -/
abbrev ChosenType := Parameter × TypeExpr

/-- The arguments of chosen types: those that are present, less the ones passed by their place
behind an absent one. -/
def argumentsOf (chosen : List ChosenType) : List Argument :=
  chosen.zipIdx.filterMap fun ((p, type), i) =>
    if type ≠ .none ∧ (p.isKeyword = true ∨ ∀ earlier ∈ chosen.take i, earlier.2 ≠ .none) then
      some ⟨p, type.concrete⟩
    else none

namespace Combination

/-- The combination of chosen types. -/
def ofChosen (chosen : List ChosenType) : Combination where
  args := argumentsOf chosen
  keywordOnly := chosen.any (·.2 = .none)

/-- One more chosen type adds at most its own argument. -/
theorem argumentsOf_concat (chosen : List ChosenType) (p : Parameter) (type : TypeExpr) :
    argumentsOf (chosen ++ [(p, type)]) = argumentsOf chosen ++
      if type ≠ .none ∧ (p.isKeyword = true ∨ ∀ earlier ∈ chosen, earlier.2 ≠ .none) then
        [⟨p, type.concrete⟩]
      else [] := by
  rw [argumentsOf, List.zipIdx_append, List.filterMap_append]
  congr 1
  · -- what stands in front of an earlier parameter is the same as before
    refine List.filterMap_congr fun ⟨⟨q, t⟩, i⟩ hq => ?_
    have inside : i ≤ chosen.length := by
      have := List.snd_lt_of_mem_zipIdx hq
      omega
    simp only [List.take_append_of_le_length inside]
  · simp only [Nat.zero_add, List.zipIdx_singleton, List.filterMap_cons, List.filterMap_nil,
      List.take_left']
    split <;> simp_all

/-- Behind an absent argument, nothing is passed by its place. -/
theorem push_dropped {c : Combination} {p : Parameter} {arm : TypeExpr} (present : arm ≠ .none)
    (only : c.keywordOnly = true) (placed : ¬p.isKeyword = true) : c.push p arm = c := by
  rw [push.eq_def]
  split
  · exact absurd rfl present
  · rw [if_pos (by simp [only, placed])]

theorem keywordOnly_ofChosen (chosen : List ChosenType) :
    (ofChosen chosen).keywordOnly = true ↔ ¬∀ earlier ∈ chosen, earlier.2 ≠ .none := by
  simp [ofChosen]

theorem ofChosen_concat (chosen : List ChosenType) (p : Parameter) (type : TypeExpr) :
    ofChosen (chosen ++ [(p, type)]) = (ofChosen chosen).push p type := by
  by_cases absent : type = .none
  · subst absent
    simp [push, ofChosen, argumentsOf_concat]
  · have flag : (chosen ++ [(p, type)]).any (·.2 = .none) = chosen.any (·.2 = .none) := by
      simp [absent]
    by_cases placed : p.isKeyword = true ∨ ∀ earlier ∈ chosen, earlier.2 ≠ .none
    · have allowed : (ofChosen chosen).keywordOnly = true → p.isKeyword = true :=
        fun only => placed.resolve_right ((keywordOnly_ofChosen chosen).1 only)
      rw [push_present absent allowed, ofChosen, argumentsOf_concat, if_pos ⟨absent, placed⟩, flag]
      rfl
    · obtain ⟨by_place, behind⟩ := not_or.1 placed
      rw [push_dropped absent ((keywordOnly_ofChosen chosen).2 behind) by_place, ofChosen,
        argumentsOf_concat, if_neg (fun kept => placed kept.2), List.append_nil, flag]
      rfl

/-- Pushing chosen types one after the other gives their combination. -/
theorem foldl_push (chosen : List ChosenType) :
    chosen.foldl (fun c q => c.push q.1 q.2) {} = ofChosen chosen := by
  induction chosen using List.reverseRecOn with
  | nil => rfl
  | append_singleton front last ih =>
    rw [List.foldl_append, ih, List.foldl_cons, List.foldl_nil, ofChosen_concat]

end Combination

namespace Signature

/-! ## Choices -/

/-- The numbers name one arm of each parameter. -/
def IsChoice (params : List Parameter) (choice : List Nat) : Prop :=
  List.Forall₂ (fun p i => i < p.type.arms.length) params choice

/-- The arms that a choice names. -/
def chosenTypes (params : List Parameter) (choice : List Nat) : List ChosenType :=
  List.zipWith (fun p i => (p, p.type.arms.getD i .none)) params choice

/-- All choices, the number for the first parameter growing slowest. -/
def choices : List Parameter → List (List Nat)
  | [] => [[]]
  | p :: rest => (List.range p.type.arms.length).flatMap fun i => (choices rest).map (i :: ·)

theorem mem_choices {params : List Parameter} {choice : List Nat} :
    choice ∈ choices params ↔ IsChoice params choice := by
  induction params generalizing choice with
  | nil => simp [choices, IsChoice]
  | cons p rest ih =>
    rw [IsChoice, List.forall₂_cons_left_iff, choices, List.mem_flatMap]
    constructor
    · rintro ⟨i, hi, hchoice⟩
      obtain ⟨others, hothers, rfl⟩ := List.mem_map.1 hchoice
      exact ⟨i, others, List.mem_range.1 hi, ih.1 hothers, rfl⟩
    · rintro ⟨i, others, hi, hothers, rfl⟩
      exact ⟨i, List.mem_range.2 hi, List.mem_map.2 ⟨others, ih.2 hothers, rfl⟩⟩

/-- Choices are listed in their lexicographic order, each once. -/
theorem pairwise_choices (params : List Parameter) :
    (choices params).Pairwise (List.Lex (· < ·)) := by
  induction params with
  | nil => exact List.pairwise_singleton ..
  | cons p rest ih =>
    rw [choices, List.pairwise_flatMap]
    constructor
    · -- with the same arm of the first parameter, the others decide
      intro i _
      exact List.pairwise_map.2 (ih.imp fun earlier => .cons earlier)
    · refine List.pairwise_lt_range.imp fun {i j} earlier => ?_
      intro one hone two htwo
      obtain ⟨_, -, rfl⟩ := List.mem_map.1 hone
      obtain ⟨_, -, rfl⟩ := List.mem_map.1 htwo
      exact .rel earlier

theorem length_choices (params : List Parameter) :
    (choices params).length = (params.map fun p => p.type.arms.length).prod := by
  induction params with
  | nil => rfl
  | cons p rest ih => simp [choices, List.length_flatMap, ih]

/-! ## Combinations -/

/-- The arms of a type by their numbers. -/
theorem map_arms {α : Type} (t : TypeExpr) (f : TypeExpr → α) :
    t.arms.map f = (List.range t.arms.length).map fun i => f (t.arms.getD i .none) := by
  refine List.ext_getElem (by simp) fun i hi _ => ?_
  have inside : i < t.arms.length := by simpa using hi
  simp [List.getElem?_eq_getElem inside]

/-- What begins in some way goes on with the choices for the parameters that are left. -/
theorem foldl_extend_eq_map (params : List Parameter) (start : Combination) :
    params.foldl extend [start] = (choices params).map fun choice =>
      (chosenTypes params choice).foldl (fun c q => c.push q.1 q.2) start := by
  induction params generalizing start with
  | nil => rfl
  | cons p rest ih =>
    have pushed : extend [start] p = p.type.arms.map (start.push p) := List.flatMap_singleton ..
    rw [List.foldl_cons, foldl_extend_eq_flatMap, pushed, map_arms, List.flatMap_map, choices,
      List.map_flatMap]
    refine List.flatMap_congr fun i _ => ?_
    rw [ih, List.map_map]
    rfl

/-- One combination for each choice. -/
theorem combinations_eq_map_choices (s : Signature) :
    s.combinations
      = (choices s.params).map fun choice => .ofChosen (chosenTypes s.params choice) := by
  rw [combinations, foldl_extend_eq_map]
  simp only [Combination.foldl_push]

/-- The number of combinations is worked out in 64-bit arithmetic. -/
theorem toNat_combinationCount (s : Signature) :
    s.combinationCount.toNat = (s.params.map fun p => p.type.arms.length).prod % 2 ^ 64 := by
  have general (params : List Parameter) (n : UInt64) :
      (params.foldl (fun n p => n * UInt64.ofNat p.type.arms.length) n).toNat
        = n.toNat * (params.map fun p => p.type.arms.length).prod % 2 ^ 64 := by
    induction params generalizing n with
    | nil => simp [Nat.mod_eq_of_lt n.toNat_lt]
    | cons p rest ih =>
      rw [List.foldl_cons, ih, List.map_cons, List.prod_cons, UInt64.toNat_mul, UInt64.toNat_ofNat',
        ← Nat.mul_assoc]
      simp [Nat.mul_mod]
  rw [combinationCount, general]
  simp

/-- The arms of a type that was read are no unions, so no argument of it has to be chosen again. -/
theorem plain_of_read {s : Signature}
    (read : ∀ p ∈ s.params, ∃ text, TypeExpr.read text = .ok p.type)
    {c : Combination} (hc : c ∈ s.combinations) {arg : Argument} (harg : arg ∈ c.args) :
    arg.type ≠ .none ∧ arg.type ≠ .any ∧ arg.type.isUnion = false := by
  obtain ⟨p, hp, -, arm, harm, present, htype⟩ := offers_of_mem_combinations hc harg
  obtain ⟨text, hread⟩ := read p hp
  have plain := ((TypeExpr.flattened_of_read hread).of_mem_arms harm).2
  rw [htype, TypeExpr.concrete]
  by_cases free : arm = .any
  · rw [if_pos free]
    exact ⟨TypeExpr.noConfusion, TypeExpr.noConfusion, rfl⟩
  · rw [if_neg free]
    exact ⟨present, free, plain⟩

/-- **Combinations are the choices of arms.** There is one for each choice, in the lexicographic
order of the choices, with the arguments that are read off the choice. So they are as many as the
product of the numbers of arms, which the count gives modulo 2^64; every argument is one of a
parameter of the signature; and if the types of the parameters were read, no argument is absent,
unconstrained or a union. -/
theorem combinations_enumerate_choices (s : Signature) :
    (∃ list : List (List Nat), list.Pairwise (List.Lex (· < ·)) ∧
      (∀ choice, choice ∈ list ↔ IsChoice s.params choice) ∧
      s.combinations = list.map fun choice =>
        let chosen := chosenTypes s.params choice
        { args := argumentsOf chosen, keywordOnly := chosen.any (·.2 = .none) }) ∧
    s.combinations.length = (s.params.map fun p => p.type.arms.length).prod ∧
    s.combinationCount.toNat = s.combinations.length % 2 ^ 64 ∧
    (∀ c ∈ s.combinations, ∀ arg ∈ c.args, arg.param ∈ s.params) ∧
    ((∀ p ∈ s.params, ∃ text, TypeExpr.read text = .ok p.type) →
      ∀ c ∈ s.combinations, ∀ arg ∈ c.args,
        arg.type ≠ .none ∧ arg.type ≠ .any ∧ arg.type.isUnion = false) := by
  have length : s.combinations.length = (s.params.map fun p => p.type.arms.length).prod := by
    rw [combinations_eq_map_choices, List.length_map, length_choices]
  refine ⟨⟨choices s.params, pairwise_choices s.params, fun _ => mem_choices,
    s.combinations_eq_map_choices⟩, length, ?_, fun c hc arg harg => ?_,
    fun read c hc arg harg => ?_⟩
  · rw [toNat_combinationCount, length]
  · obtain ⟨p, hp, same, -⟩ := offers_of_mem_combinations hc harg
    exact same ▸ hp
  · exact plain_of_read read hc harg

theorem read_optional_any : TypeExpr.read "Optional[Any]" = .ok (.union [.any, .none]) := by
  let ph : TypeExpr.Phrase := .optional .any
  have spelled : TypeExpr.Spelled "Optional[Any]".toList ph.lexemes :=
    (TypeExpr.spelled_iff fun c => ph.stray_not_mem c).2 (by decide)
  exact TypeExpr.read_eq_ok_iff_exists_phrase.2 ⟨ph, spelled, rfl⟩

/-- A function with an argument that can be left out, one behind it and a keyword. -/
def takesOptional : Signature where
  name := "f"
  receiver := none
  params := [⟨"x", .union [.any, .none], .positional⟩, ⟨"y", .any, .variadic⟩,
    ⟨"k", .union [.any, .none], .keyword true⟩]
  returns := .none

/-- Where the first argument is left out, only the keyword is passed. -/
theorem combinations_takesOptional :
    (∀ p ∈ takesOptional.params, ∃ text, TypeExpr.read text = .ok p.type) ∧
      (takesOptional.combinations.map fun c => c.args.map (·.param.name))
        = [["x", "y", "k"], ["x", "y"], ["k"], []] ∧
      ∀ c ∈ takesOptional.combinations, ∀ arg ∈ c.args,
        arg.type ≠ .none ∧ arg.type ≠ .any ∧ arg.type.isUnion = false := by
  have read : ∀ p ∈ takesOptional.params, ∃ text, TypeExpr.read text = .ok p.type := by
    refine List.forall_mem_cons.2 ⟨⟨_, read_optional_any⟩, ?_⟩
    refine List.forall_mem_cons.2 ⟨⟨_, TypeExpr.read_any⟩, ?_⟩
    exact List.forall_mem_singleton.2 ⟨_, read_optional_any⟩
  exact ⟨read, by decide, (combinations_enumerate_choices takesOptional).2.2.2.2 read⟩

end Signature

end SignatureAudit
