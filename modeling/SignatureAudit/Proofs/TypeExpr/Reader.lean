import SignatureAudit.Proofs.Effect
import SignatureAudit.TypeExpr.Reader

/-!
# Flattened types

A type is *flattened* when each union in it, at any depth, has at least two arms, no arm twice and
no union among its arms. Every type that is read from a text is flattened (`flattened_of_read`):
the reader builds its unions by `unionOf` alone, which flattens (`flattened_unionOf`).
-/

namespace SignatureAudit.TypeExpr

/-- Unions have several different arms that are no unions themselves. -/
inductive Flattened : TypeExpr → Prop
  | named (name : String) : Flattened (.named name)
  | array : Flattened .array
  | arrayOf {elem : TypeExpr} (flat : Flattened elem) : Flattened (.arrayOf elem)
  | union {arms : List TypeExpr} (several : 2 ≤ arms.length) (different : arms.Nodup)
      (plain : ∀ arm ∈ arms, arm.isUnion = false) (flat : ∀ arm ∈ arms, Flattened arm) :
      Flattened (.union arms)
  | any : Flattened .any
  | none : Flattened .none

namespace Flattened

variable {t arm : TypeExpr}

theorem of_mem_arms (ht : Flattened t) (harm : arm ∈ t.arms) :
    Flattened arm ∧ arm.isUnion = false := by
  cases ht with
  | union several different plain flat => exact ⟨flat arm harm, plain arm harm⟩
  | named name => exact List.eq_of_mem_singleton harm ▸ ⟨named name, rfl⟩
  | array => exact List.eq_of_mem_singleton harm ▸ ⟨array, rfl⟩
  | arrayOf flat => exact List.eq_of_mem_singleton harm ▸ ⟨arrayOf flat, rfl⟩
  | any => exact List.eq_of_mem_singleton harm ▸ ⟨any, rfl⟩
  | none => exact List.eq_of_mem_singleton harm ▸ ⟨none, rfl⟩

theorem arms_ne_nil (ht : Flattened t) : t.arms ≠ [] := by
  cases ht with
  | @union list several different plain flat =>
    show list ≠ []
    exact List.ne_nil_of_length_pos (by omega)
  | named name => exact List.cons_ne_nil _ _
  | array => exact List.cons_ne_nil _ _
  | arrayOf flat => exact List.cons_ne_nil _ _
  | any => exact List.cons_ne_nil _ _
  | none => exact List.cons_ne_nil _ _

/-- Only the absent argument itself has no other arm. -/
theorem exists_arm_ne_none (ht : Flattened t) (present : t ≠ .none) :
    ∃ arm ∈ t.arms, arm ≠ .none := by
  cases ht with
  | @union list several different plain flat =>
    -- of two different arms, one is present
    match list, several, different with
    | first :: second :: rest, _, different =>
      show ∃ arm ∈ first :: second :: rest, arm ≠ .none
      by_cases absent : first = .none
      · refine ⟨second, by simp, fun again => ?_⟩
        rw [absent, again] at different
        simp at different
      · exact ⟨first, by simp, absent⟩
  | named name => exact ⟨_, List.mem_singleton_self _, present⟩
  | array => exact ⟨_, List.mem_singleton_self _, present⟩
  | arrayOf flat => exact ⟨_, List.mem_singleton_self _, present⟩
  | any => exact ⟨_, List.mem_singleton_self _, present⟩
  | none => exact absurd rfl present

end Flattened

theorem flattened_unionOf {types : List TypeExpr} (some_type : types ≠ [])
    (flat : ∀ t ∈ types, Flattened t) : Flattened (unionOf types) := by
  have arm_flat (arm : TypeExpr) (hm : arm ∈ distinct (types.flatMap arms)) :
      Flattened arm ∧ arm.isUnion = false := by
    obtain ⟨t, ht, harm⟩ := List.mem_flatMap.1 (mem_distinct.1 hm)
    exact (flat t ht).of_mem_arms harm
  have some_arm : distinct (types.flatMap arms) ≠ [] := by
    obtain ⟨t, rest, rfl⟩ := List.exists_cons_of_ne_nil some_type
    obtain ⟨arm, others, harms⟩ := List.exists_cons_of_ne_nil (flat t (by simp)).arms_ne_nil
    exact List.ne_nil_of_mem (mem_distinct.2 (by simp [harms] : arm ∈ (t :: rest).flatMap arms))
  have different := nodup_distinct (types.flatMap arms)
  rw [unionOf]
  match h : distinct (types.flatMap arms), different with
  | [], _ => exact absurd h some_arm
  | [t], _ => exact (arm_flat t (by simp [h])).1
  | first :: second :: rest, different =>
    rw [h] at arm_flat
    exact .union (by simp) different (fun arm hm => (arm_flat arm hm).2)
      fun arm hm => (arm_flat arm hm).1

/-! ## The reader -/

/-- Only a word starts a type. -/
theorem exists_word_of_readType {size : Nat} {tokens : List Token}
    {answer : TypeExpr × Remainder tokens} (h : readType size tokens = .ok answer) :
    ∃ text offset rest, tokens = ⟨.word text, offset⟩ :: rest := by
  rw [readType.eq_def] at h
  split at h
  · exact ⟨_, _, _, rfl⟩
  · cases h

/-- Only an opening bracket starts an argument list. -/
theorem exists_opening_of_readArguments {size : Nat} {tokens : List Token}
    {answer : List TypeExpr × Remainder tokens} (h : readArguments size tokens = .ok answer) :
    ∃ offset rest, tokens = ⟨.opening, offset⟩ :: rest := by
  rw [readArguments.eq_def] at h
  split at h
  · exact ⟨_, _, rfl⟩
  · cases h
  · cases h

/-- Only a comma or a closing bracket follows an argument. -/
theorem exists_comma_of_readMore {size : Nat} {tokens : List Token}
    {answer : List TypeExpr × Remainder tokens} (h : readMore size tokens = .ok answer) :
    ∃ offset rest, tokens = ⟨.comma, offset⟩ :: rest ∨ tokens = ⟨.closing, offset⟩ :: rest := by
  rw [readMore.eq_def] at h
  split at h
  · exact ⟨_, _, .inl rfl⟩
  · exact ⟨_, _, .inr rfl⟩
  · cases h

mutual

theorem flattened_of_readType {size : Nat} {tokens : List Token} {t : TypeExpr}
    {left : Remainder tokens} (h : readType size tokens = .ok (t, left)) : Flattened t := by
  obtain ⟨text, offset, rest, rfl⟩ := exists_word_of_readType h
  rw [readType] at h
  cases head : Head.ofWord text with
  | any =>
    simp only [head] at h
    cases h
    exact .any
  | none =>
    simp only [head] at h
    cases h
    exact .none
  | name name =>
    simp only [head] at h
    split at h
    · cases h
    · cases h
      exact .named name
  | array =>
    simp only [head] at h
    split at h
    · obtain ⟨⟨types, after⟩, args, h⟩ := exists_of_bind_eq_ok h
      have flat := (flattened_of_readArguments args).2
      match types, flat, h with
      | [elem], flat, h =>
        cases h
        exact .arrayOf (flat elem (List.mem_singleton_self elem))
    · cases h
      exact .array
  | union =>
    simp only [head] at h
    obtain ⟨⟨types, after⟩, args, h⟩ := exists_of_bind_eq_ok h
    have flat := flattened_of_readArguments args
    cases h
    exact flattened_unionOf flat.1 flat.2
  | optional =>
    simp only [head] at h
    obtain ⟨⟨types, after⟩, args, h⟩ := exists_of_bind_eq_ok h
    have flat := (flattened_of_readArguments args).2
    match types, flat, h with
    | [inner], flat, h =>
      cases h
      refine flattened_unionOf (List.cons_ne_nil _ _) (List.forall_mem_cons.2 ⟨?_, ?_⟩)
      · exact flat inner (List.mem_singleton_self inner)
      · exact List.forall_mem_singleton.2 .none
termination_by tokens.length

theorem flattened_of_readArguments {size : Nat} {tokens : List Token} {types : List TypeExpr}
    {left : Remainder tokens} (h : readArguments size tokens = .ok (types, left)) :
    types ≠ [] ∧ ∀ t ∈ types, Flattened t := by
  obtain ⟨offset, rest, rfl⟩ := exists_opening_of_readArguments h
  rw [readArguments] at h
  obtain ⟨⟨first, after⟩, read, h⟩ := exists_of_bind_eq_ok h
  obtain ⟨⟨others, last⟩, more, h⟩ := exists_of_bind_eq_ok h
  have shorter : after.val.length < rest.length := after.property
  have flat := flattened_of_readType read
  have flats := flattened_of_readMore more
  cases h
  exact ⟨List.cons_ne_nil _ _, List.forall_mem_cons.2 ⟨flat, flats⟩⟩
termination_by tokens.length
decreasing_by all_goals (subst_vars; simp only [List.length_cons]; omega)

theorem flattened_of_readMore {size : Nat} {tokens : List Token} {types : List TypeExpr}
    {left : Remainder tokens} (h : readMore size tokens = .ok (types, left)) :
    ∀ t ∈ types, Flattened t := by
  obtain ⟨offset, rest, rfl | rfl⟩ := exists_comma_of_readMore h
  · rw [readMore] at h
    obtain ⟨⟨next, after⟩, read, h⟩ := exists_of_bind_eq_ok h
    obtain ⟨⟨others, last⟩, more, h⟩ := exists_of_bind_eq_ok h
    have shorter : after.val.length < rest.length := after.property
    have flat := flattened_of_readType read
    have flats := flattened_of_readMore more
    cases h
    exact List.forall_mem_cons.2 ⟨flat, flats⟩
  · rw [readMore] at h
    cases h
    exact List.forall_mem_nil _
termination_by tokens.length
decreasing_by all_goals (subst_vars; simp only [List.length_cons]; omega)

end

/-- What is read is flattened. -/
theorem flattened_of_read {text : String} {t : TypeExpr} (h : read text = .ok t) : Flattened t := by
  rw [read] at h
  split at h
  · cases h
  · next answer =>
    cases h
    exact flattened_of_readType answer
  · cases h

/-! ## Single words -/

/-- The type that a word alone means. -/
def Head.alone : Head → Except Fault TypeExpr
  | .any => .ok .any
  | .none => .ok .none
  | .array => .ok .array
  | .name text => .ok (.named text)
  | .union | .optional => .error (.argumentsExpected Option.none)

theorem readType_of_word {tokens : List Token} {word : String} {offset : Nat}
    (single : tokens = [⟨.word word, offset⟩]) (size : Nat) :
    ∃ left : Remainder tokens, left.val = [] ∧
      readType size tokens = (Head.ofWord word).alone.map (·, left) := by
  subst single
  refine ⟨.tail, rfl, ?_⟩
  have unopened : readArguments size [] = .error (.argumentsExpected Option.none) := by
    rw [readArguments]
  rw [readType]
  cases Head.ofWord word with
  | any => rfl
  | none => rfl
  | array => rfl
  | name name => rfl
  | union =>
    simp only [unopened]
    rfl
  | optional =>
    simp only [unopened]
    rfl

/-- A text of a single word is read as what the word means. -/
theorem read_of_word {text word : String} {offset : Nat} {t : TypeExpr}
    (single : tokens text = [⟨.word word, offset⟩]) (meant : (Head.ofWord word).alone = .ok t) :
    read text = .ok t := by
  obtain ⟨left, all, answer⟩ := readType_of_word single text.utf8ByteSize
  rw [meant] at answer
  obtain ⟨rest, shorter⟩ := left
  obtain rfl : rest = [] := all
  rw [read, answer]
  rfl

theorem read_any : read "Any" = .ok .any := by
  have single : tokens "Any" = [⟨.word "Any", 0⟩] := by decide
  exact read_of_word single rfl

theorem read_none : read "None" = .ok .none := by
  have single : tokens "None" = [⟨.word "None", 0⟩] := by decide
  exact read_of_word single rfl

theorem read_number : read "Number" = .ok (.named "Number") := by
  have single : tokens "Number" = [⟨.word "Number", 0⟩] := by decide
  exact read_of_word single rfl

end SignatureAudit.TypeExpr
