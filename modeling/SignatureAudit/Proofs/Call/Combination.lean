import SignatureAudit.Call.Combination
import SignatureAudit.Proofs.TypeExpr.Reader

/-!
# Which arguments combinations have

A parameter offers one argument for each of its arms but the absent one. Combinations have no other
arguments (`offers_of_mem_combinations`). Conversely each offered argument stands in a combination
(`exists_combination_of_offers`): the parameters in front of it can be given present arms, and a
parameter that has none turns the call into one by keywords only, which must then reach it.
-/

namespace SignatureAudit

/-- The argument stands for one of the arms of the parameter. -/
def Parameter.Offers (p : Parameter) (arg : Argument) : Prop :=
  arg.param = p ∧ ∃ arm ∈ p.type.arms, arm ≠ .none ∧ arg.type = arm.concrete

/-- No parameter that is passed by its place stands behind one that is always left out. -/
def KeywordsBehindAbsent (params : List Parameter) : Prop :=
  params.Pairwise fun p q => p.type = .none → q.isKeyword = true

namespace Combination

variable {c : Combination} {p : Parameter} {arm : TypeExpr} {arg : Argument}

theorem push_present (present : arm ≠ .none) (allowed : c.keywordOnly = true → p.isKeyword = true) :
    c.push p arm = { c with args := c.args ++ [⟨p, arm.concrete⟩] } := by
  have kept : (c.keywordOnly && !p.isKeyword) = false := by
    cases hk : c.keywordOnly with
    | false => rfl
    | true => rw [allowed hk, Bool.not_true, Bool.and_false]
  rw [push.eq_def]
  split
  · exact absurd rfl present
  · rw [if_neg (by simp [kept])]

theorem keywordOnly_push (present : arm ≠ .none) :
    (c.push p arm).keywordOnly = c.keywordOnly := by
  rw [push.eq_def]
  split
  · exact absurd rfl present
  · split <;> rfl

theorem mem_args_push (harg : arg ∈ (c.push p arm).args) :
    arg ∈ c.args ∨ arm ≠ .none ∧ arg = ⟨p, arm.concrete⟩ := by
  rw [push.eq_def] at harg
  split at harg
  · exact .inl harg
  · next present =>
    by_cases dropped : (c.keywordOnly && !p.isKeyword) = true
    · rw [if_pos dropped] at harg
      exact .inl harg
    · rw [if_neg dropped] at harg
      rcases List.mem_append.1 harg with old | new
      · exact .inl old
      · exact .inr ⟨present, List.eq_of_mem_singleton new⟩

theorem args_subset_push (c : Combination) (p : Parameter) (arm : TypeExpr) :
    c.args ⊆ (c.push p arm).args := by
  rw [push.eq_def]
  split
  · exact List.Subset.refl _
  · split
    · exact List.Subset.refl _
    · exact List.subset_append_left ..

end Combination

namespace Signature

variable {params : List Parameter} {c start : Combination} {p : Parameter} {arg : Argument}

theorem mem_foldl_extend_cons {rest : List Parameter} :
    c ∈ (p :: rest).foldl extend [start] ↔
      ∃ arm ∈ p.type.arms, c ∈ rest.foldl extend [start.push p arm] := by
  have pushed : extend [start] p = p.type.arms.map (start.push p) := List.flatMap_singleton ..
  rw [List.foldl_cons, foldl_extend_eq_flatMap, pushed, List.flatMap_map, List.mem_flatMap]

/-- The arguments behind a start are offered by the parameters that follow it. -/
theorem offers_of_mem_foldl_extend (hc : c ∈ params.foldl extend [start]) (harg : arg ∈ c.args) :
    arg ∈ start.args ∨ ∃ p ∈ params, p.Offers arg := by
  induction params generalizing start with
  | nil => exact .inl (List.eq_of_mem_singleton hc ▸ harg)
  | cons q rest ih =>
    obtain ⟨arm, harm, hc⟩ := mem_foldl_extend_cons.1 hc
    rcases ih hc with first | ⟨p, hp, offers⟩
    · rcases Combination.mem_args_push first with old | ⟨present, rfl⟩
      · exact .inl old
      · exact .inr ⟨q, List.mem_cons_self, rfl, arm, harm, present, rfl⟩
    · exact .inr ⟨p, List.mem_cons_of_mem q hp, offers⟩

theorem exists_extension (flat : ∀ p ∈ params, p.type.Flattened) (start : Combination) :
    ∃ c ∈ params.foldl extend [start], start.args ⊆ c.args := by
  induction params generalizing start with
  | nil => exact ⟨start, List.mem_singleton_self start, List.Subset.refl _⟩
  | cons q rest ih =>
    have some_arm := (flat q List.mem_cons_self).arms_ne_nil
    obtain ⟨arm, others, harms⟩ := List.exists_cons_of_ne_nil some_arm
    obtain ⟨c, hc, kept⟩ := ih (fun p hp => flat p (List.mem_cons_of_mem q hp)) (start.push q arm)
    refine ⟨c, mem_foldl_extend_cons.2 ⟨arm, by simp [harms], hc⟩, ?_⟩
    exact List.Subset.trans (start.args_subset_push q arm) kept

/-- An offered argument is reached from every start that does not rule its parameter out. -/
theorem exists_extension_of_offers (flat : ∀ p ∈ params, p.type.Flattened)
    (behind : KeywordsBehindAbsent params) (hp : p ∈ params) (offers : p.Offers arg)
    (start : Combination) (allowed : start.keywordOnly = true → p.isKeyword = true) :
    ∃ c ∈ params.foldl extend [start], arg ∈ c.args := by
  induction params generalizing start with
  | nil => cases hp
  | cons q rest ih =>
    obtain ⟨behind_q, behind_rest⟩ := List.pairwise_cons.1 behind
    have flat_rest : ∀ p ∈ rest, p.type.Flattened := fun p hp => flat p (List.mem_cons_of_mem q hp)
    rcases List.mem_cons.1 hp with rfl | hp
    · obtain ⟨same, arm, harm, present, htype⟩ := offers
      -- what is passed already stays, whatever the later parameters add
      obtain ⟨c, hc, kept⟩ := exists_extension flat_rest (start.push p arm)
      refine ⟨c, mem_foldl_extend_cons.2 ⟨arm, harm, hc⟩, kept ?_⟩
      rw [Combination.push_present present allowed]
      refine List.mem_append_right _ (List.mem_singleton.2 ?_)
      cases arg
      cases same
      cases htype
      rfl
    · by_cases absent : q.type = .none
      -- nothing can be passed for the parameter in front, so the call uses keywords from here on
      · obtain ⟨c, hc, harg⟩ := ih flat_rest behind_rest hp (start.push q .none)
          fun _ => behind_q p hp absent
        exact ⟨c, mem_foldl_extend_cons.2 ⟨.none, by simp [absent, TypeExpr.arms], hc⟩, harg⟩
      -- else some arm of it can be passed, which leaves the way of passing as it is
      · obtain ⟨arm, harm, present⟩ := (flat q List.mem_cons_self).exists_arm_ne_none absent
        obtain ⟨c, hc, harg⟩ := ih flat_rest behind_rest hp (start.push q arm)
          (by rwa [Combination.keywordOnly_push present])
        exact ⟨c, mem_foldl_extend_cons.2 ⟨arm, harm, hc⟩, harg⟩

variable {s : Signature}

theorem offers_of_mem_combinations (hc : c ∈ s.combinations) (harg : arg ∈ c.args) :
    ∃ p ∈ s.params, p.Offers arg :=
  (offers_of_mem_foldl_extend hc harg).resolve_left List.not_mem_nil

theorem exists_combination_of_offers (flat : ∀ p ∈ s.params, p.type.Flattened)
    (behind : KeywordsBehindAbsent s.params) (hp : p ∈ s.params) (offers : p.Offers arg) :
    ∃ c ∈ s.combinations, arg ∈ c.args := by
  refine exists_extension_of_offers flat behind hp offers {} fun keywords => ?_
  cases keywords

end Signature

end SignatureAudit
