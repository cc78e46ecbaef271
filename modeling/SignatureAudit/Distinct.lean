/-!
# Lists without repetition

`distinctOn` keeps of the elements with one key the first, in the order in which they stand. A walk
along the list that remembers the keys it has come by finds the same elements (`unseen_nil`).
-/

namespace SignatureAudit

/-- A list with, of the elements that share a key, the first one only. -/
def distinctOn {α β : Type} [DecidableEq β] (key : α → β) : List α → List α
  | [] => []
  | a :: rest => a :: (distinctOn key rest).filter (key · ≠ key a)

/-- What a walk along a list keeps that remembers the keys it has seen, and passes over an element
whose key is one of them. -/
def unseen {α β : Type} [DecidableEq β] (key : α → β) (seen : List β) : List α → List α
  | [] => []
  | a :: rest =>
    if key a ∈ seen then unseen key seen rest else a :: unseen key (key a :: seen) rest

/-- A list with each element at its first place only. -/
def distinct {α : Type} [DecidableEq α] (l : List α) : List α := distinctOn id l

variable {α β : Type} [DecidableEq β] {key : α → β}

theorem distinctOn_sublist (l : List α) : (distinctOn key l).Sublist l := by
  induction l with
  | nil => exact .slnil
  | cons a rest ih => exact (List.filter_sublist.trans ih).cons_cons a

theorem map_mem_distinctOn {b : β} {l : List α} :
    b ∈ (distinctOn key l).map key ↔ b ∈ l.map key := by
  induction l with
  | nil => rfl
  | cons a rest ih =>
    simp only [List.mem_map] at ih
    by_cases h : key a = b
    · simp [distinctOn, h]
    · simp only [distinctOn, List.map_cons, List.mem_cons, List.mem_map, List.mem_filter,
        decide_eq_true_eq]
      constructor
      · rintro (e | ⟨x, ⟨hx, -⟩, rfl⟩)
        · exact .inl e
        · exact .inr (ih.1 ⟨x, hx, rfl⟩)
      · rintro (e | later)
        · exact .inl e
        · obtain ⟨x, hx, same⟩ := ih.2 later
          exact .inr ⟨x, ⟨hx, fun e => h (e.symm.trans same)⟩, same⟩

theorem nodup_map_distinctOn (l : List α) : ((distinctOn key l).map key).Nodup := by
  induction l with
  | nil => simp [distinctOn]
  | cons a rest ih =>
    refine List.nodup_cons.2 ⟨by simp, ?_⟩
    exact ih.sublist (List.filter_sublist.map _)

theorem distinctOn_of_nodup {l : List α} (h : (l.map key).Nodup) : distinctOn key l = l := by
  induction l with
  | nil => rfl
  | cons a rest ih =>
    obtain ⟨absent, different⟩ := List.nodup_cons.1 h
    have kept : rest.filter (key · ≠ key a) = rest := by
      rw [List.filter_eq_self]
      intro x hx
      have other : key x ≠ key a := fun same => absent (same ▸ List.mem_map_of_mem hx)
      exact decide_eq_true other
    rw [distinctOn, ih different, kept]

/-- Behind a list only those keys count that are not in it. -/
theorem distinctOn_append (l m : List α) :
    distinctOn key (l ++ m)
      = distinctOn key l ++ (distinctOn key m).filter (key · ∉ l.map key) := by
  induction l with
  | nil => exact (List.filter_eq_self.2 fun _ _ => decide_eq_true List.not_mem_nil).symm
  | cons a rest ih =>
    rw [List.cons_append, distinctOn, ih, distinctOn, List.filter_append, List.filter_filter,
      List.cons_append]
    simp

/-- The walk keeps the first element of each key, unless it has seen the key before. -/
theorem unseen_eq (seen : List β) (l : List α) :
    unseen key seen l = (distinctOn key l).filter (key · ∉ seen) := by
  induction l generalizing seen with
  | nil => rfl
  | cons a rest ih =>
    rw [unseen, distinctOn]
    by_cases known : key a ∈ seen
    · -- the later elements with this key are filtered out by `seen` already
      have covered {x : α} (h : key x ∉ seen) : key x ≠ key a := fun same => h (same ▸ known)
      rw [if_pos known, ih, List.filter_cons_of_neg (by simpa using known), List.filter_filter]
      refine List.filter_congr fun x _ => ?_
      simpa using covered
    · rw [if_neg known, ih, List.filter_cons_of_pos (by simpa using known), List.filter_filter]
      refine congrArg (a :: ·) (List.filter_congr fun x _ => ?_)
      simp [Bool.and_comm]

/-- A walk that starts without a key keeps the first element of each. -/
theorem unseen_nil (l : List α) : unseen key [] l = distinctOn key l := by
  simp [unseen_eq]

theorem mem_distinct {b : β} {l : List β} : b ∈ distinct l ↔ b ∈ l := by
  simpa [distinct] using @map_mem_distinctOn β β _ id b l

theorem nodup_distinct (l : List β) : (distinct l).Nodup := by
  simpa [distinct] using @nodup_map_distinctOn β β _ id l

theorem distinct_of_nodup {l : List β} (h : l.Nodup) : distinct l = l :=
  distinctOn_of_nodup (by rwa [List.map_id])

/-- Behind a list only what is not in it counts. -/
theorem distinct_append (l m : List β) :
    distinct (l ++ m) = distinct l ++ (distinct m).filter (· ∉ l) := by
  simpa [distinct] using @distinctOn_append β β _ id l m

theorem distinct_concat_of_mem {b : β} {l : List β} (h : b ∈ l) :
    distinct (l ++ [b]) = distinct l := by
  rw [distinct_append, List.filter_eq_nil_iff.2, List.append_nil]
  intro a ha
  obtain rfl := List.mem_singleton.1 (mem_distinct.1 ha)
  simpa using h

theorem distinct_concat_of_not_mem {b : β} {l : List β} (h : b ∉ l) :
    distinct (l ++ [b]) = distinct l ++ [b] := by
  rw [distinct_append, List.filter_eq_self.2]
  · rfl
  · intro a ha
    obtain rfl := List.mem_singleton.1 (mem_distinct.1 ha)
    exact decide_eq_true h

/-- Repetitions may be dropped from the parts of a list first. -/
theorem distinct_flatMap_distinct (f : α → List β) (l : List α) :
    distinct (l.flatMap fun a => distinct (f a)) = distinct (l.flatMap f) := by
  induction l with
  | nil => rfl
  | cons a rest ih =>
    have same : ∀ b, b ∉ distinct (f a) ↔ b ∉ f a := fun b => not_congr mem_distinct
    rw [List.flatMap_cons, List.flatMap_cons, distinct_append, distinct_append, ih,
      distinct_of_nodup (nodup_distinct (f a))]
    simp only [same]

end SignatureAudit
