import Mathlib.Data.List.Forall2

/-!
# Computations that can fail on a state

A computation that can fail and works on a state answers with a value or an error, and leaves a
state either way: what was done before the error stays. `runOn` gives both, and the lemmas say what
it gives for each way in which such a computation is put together.
-/

namespace SignatureAudit

variable {ε σ α β : Type}

/-- What a computation answers on a state, with the state that it leaves. -/
def runOn (x : ExceptT ε (StateM σ) α) (s : σ) : Except ε α × σ := x.run.run s

@[simp] theorem runOn_pure (a : α) (s : σ) :
    runOn (pure a : ExceptT ε (StateM σ) α) s = (.ok a, s) := rfl

@[simp] theorem runOn_throw (e : ε) (s : σ) :
    runOn (throw e : ExceptT ε (StateM σ) α) s = (.error e, s) := rfl

@[simp] theorem runOn_get (s : σ) :
    runOn (get : ExceptT ε (StateM σ) σ) s = (.ok s, s) := rfl

@[simp] theorem runOn_set (t s : σ) :
    runOn (set t : ExceptT ε (StateM σ) PUnit) s = (.ok ⟨⟩, t) := rfl

@[simp] theorem runOn_modify (f : σ → σ) (s : σ) :
    runOn (modify f : ExceptT ε (StateM σ) PUnit) s = (.ok ⟨⟩, f s) := rfl

/-- Nothing follows an error. -/
theorem runOn_bind (x : ExceptT ε (StateM σ) α) (f : α → ExceptT ε (StateM σ) β) (s : σ) :
    runOn (x >>= f) s = match runOn x s with
      | (.ok a, t) => runOn (f a) t
      | (.error e, t) => (.error e, t) := by
  have split : runOn (x >>= f) s = (x.run >>= fun
      | .ok a => (f a).run
      | .error e => pure (.error e)).run s := rfl
  rw [split, StateT.run_bind]
  show _ = match x.run.run s with
    | (.ok a, t) => (f a).run.run t
    | (.error e, t) => (.error e, t)
  generalize x.run.run s = r
  rcases r with ⟨e | a, t⟩ <;> rfl

theorem runOn_bind_ok {x : ExceptT ε (StateM σ) α} {f : α → ExceptT ε (StateM σ) β} {s t : σ}
    {a : α} (h : runOn x s = (.ok a, t)) : runOn (x >>= f) s = runOn (f a) t := by
  rw [runOn_bind, h]

theorem runOn_bind_error {x : ExceptT ε (StateM σ) α} {f : α → ExceptT ε (StateM σ) β} {s t : σ}
    {e : ε} (h : runOn x s = (.error e, t)) : runOn (x >>= f) s = (.error e, t) := by
  rw [runOn_bind, h]

/-- A value comes only if both parts give one. -/
theorem exists_of_runOn_bind_ok {x : ExceptT ε (StateM σ) α} {f : α → ExceptT ε (StateM σ) β}
    {s u : σ} {b : β} (h : runOn (x >>= f) s = (.ok b, u)) :
    ∃ a t, runOn x s = (.ok a, t) ∧ runOn (f a) t = (.ok b, u) := by
  rw [runOn_bind] at h
  rcases ran : runOn x s with ⟨e | a, t⟩
  · rw [ran] at h
    cases h
  · rw [ran] at h
    exact ⟨a, t, rfl, h⟩

/-- What the first part of a computation establishes and the second part keeps, the whole leaves,
wherever an error may have ended it. -/
theorem runOn_bind_keeps {p : σ → Prop} {x : ExceptT ε (StateM σ) α}
    {f : α → ExceptT ε (StateM σ) β} {s : σ} (hx : p (runOn x s).2)
    (hf : ∀ a t, p t → p (runOn (f a) t).2) : p (runOn (x >>= f) s).2 := by
  cases h : runOn x s with
  | mk answer t =>
    rw [h] at hx
    cases answer with
    | ok a =>
      rw [runOn_bind_ok h]
      exact hf a t hx
    | error e =>
      rw [runOn_bind_error h]
      exact hx

@[simp] theorem runOn_map (f : α → β) (x : ExceptT ε (StateM σ) α) (s : σ) :
    runOn (f <$> x) s = ((runOn x s).1.map f, (runOn x s).2) := by
  rw [map_eq_pure_bind, runOn_bind]
  generalize runOn x s = r
  rcases r with ⟨e | a, t⟩ <;> rfl

/-- A computation whose error is handed on as its answer does not fail. -/
@[simp] theorem runOn_lift_run (x : ExceptT ε (StateM σ) α) (s : σ) :
    runOn (ExceptT.lift x.run : ExceptT ε (StateM σ) (Except ε α)) s
      = (.ok (runOn x s).1, (runOn x s).2) := rfl

/-- A computation without a state gives a value only if both of its parts do. -/
theorem exists_of_bind_eq_ok {x : Except ε α} {f : α → Except ε β} {b : β}
    (h : (x >>= f) = .ok b) : ∃ a, x = .ok a ∧ f a = .ok b := by
  cases x with
  | error e => cases h
  | ok a => exact ⟨a, rfl, h⟩

theorem bind_eq_ok_iff {x : Except ε α} {f : α → Except ε β} {b : β} :
    (x >>= f) = .ok b ↔ ∃ a, x = .ok a ∧ f a = .ok b := by
  refine ⟨exists_of_bind_eq_ok, ?_⟩
  rintro ⟨a, rfl, h⟩
  exact h

theorem mapError_eq_ok_iff {ε' : Type} {x : Except ε α} {f : ε → ε'} {a : α} :
    x.mapError f = .ok a ↔ x = .ok a := by
  cases x with
  | error e => exact ⟨(nomatch ·), (nomatch ·)⟩
  | ok b =>
    show Except.ok b = Except.ok a ↔ Except.ok b = Except.ok a
    rw [Except.ok.injEq, Except.ok.injEq]

theorem map_eq_error_iff {x : Except ε α} {f : α → β} {e : ε} :
    x.map f = .error e ↔ x = .error e := by
  cases x with
  | error e' =>
    show Except.error e' = Except.error e ↔ Except.error e' = Except.error e
    rw [Except.error.injEq, Except.error.injEq]
  | ok a => exact ⟨(nomatch ·), (nomatch ·)⟩

theorem exists_of_map_eq_ok {x : Except ε α} {f : α → β} {b : β} (h : x.map f = .ok b) :
    ∃ a, x = .ok a ∧ f a = b := by
  cases x with
  | error e => cases h
  | ok a => exact ⟨a, rfl, Except.ok.inj h⟩

/-- A list of computations gives values only if each of them gives its own. -/
theorem mapM_eq_ok_iff {f : α → Except ε β} {list : List α} {values : List β} :
    list.mapM f = .ok values ↔ list.map f = values.map .ok := by
  induction list generalizing values with
  | nil =>
    rw [List.mapM_nil, List.map_nil]
    constructor
    · intro h
      rw [← Except.ok.inj h]
      rfl
    · intro h
      rw [List.map_eq_nil_iff.1 h.symm]
      rfl
  | cons a rest ih =>
    rw [List.mapM_cons, bind_eq_ok_iff]
    constructor
    · rintro ⟨b, first, others⟩
      obtain ⟨bs, read, whole⟩ := bind_eq_ok_iff.1 others
      obtain rfl := Except.ok.inj whole
      rw [List.map_cons, List.map_cons, first, ih.1 read]
    · intro h
      cases values with
      | nil => cases h
      | cons b bs =>
        rw [List.map_cons, List.map_cons, List.cons.injEq] at h
        exact ⟨b, h.1, bind_eq_ok_iff.2 ⟨bs, ih.2 h.2, rfl⟩⟩

theorem exists_mapM_eq_ok_iff {f : α → Except ε β} {list : List α} :
    (∃ values, list.mapM f = .ok values) ↔ ∀ a ∈ list, ∃ b, f a = .ok b := by
  simp only [mapM_eq_ok_iff]
  induction list with
  | nil => exact ⟨fun _ a ha => absurd ha List.not_mem_nil, fun _ => ⟨[], rfl⟩⟩
  | cons a rest ih =>
    rw [List.forall_mem_cons, ← ih]
    constructor
    · rintro ⟨values, h⟩
      cases values with
      | nil => cases h
      | cons b bs =>
        rw [List.map_cons, List.map_cons, List.cons.injEq] at h
        exact ⟨⟨b, h.1⟩, bs, h.2⟩
    · rintro ⟨⟨b, first⟩, bs, others⟩
      exact ⟨b :: bs, by rw [List.map_cons, List.map_cons, first, others]⟩

/-- The values are those of the elements. -/
theorem mem_of_mapM_eq_ok {f : α → Except ε β} {list : List α} {values : List β}
    (h : list.mapM f = .ok values) {b : β} : b ∈ values ↔ ∃ a ∈ list, f a = .ok b := by
  have same : (.ok b : Except ε β) ∈ list.map f ↔ .ok b ∈ values.map (.ok : β → Except ε β) := by
    rw [mapM_eq_ok_iff.1 h]
  simpa using same.symm

/-- A list of computations fails as the first one of them that fails. -/
theorem mapM_eq_error_iff {f : α → Except ε β} {list : List α} {e : ε} :
    list.mapM f = .error e ↔
      ∃ front a back, list = front ++ a :: back ∧ (∀ x ∈ front, ∃ b, f x = .ok b) ∧
        f a = .error e := by
  induction list with
  | nil =>
    constructor
    · intro h
      cases h
    · rintro ⟨front, a, back, split, -⟩
      exact absurd split.symm (List.append_ne_nil_of_right_ne_nil _ (List.cons_ne_nil _ _))
  | cons a rest ih =>
    rw [List.mapM_cons]
    cases ran : f a with
    | error e' =>
      constructor
      · intro h
        obtain rfl := Except.error.inj h
        exact ⟨[], a, rest, rfl, List.forall_mem_nil _, ran⟩
      · rintro ⟨front, b, back, split, fine, failed⟩
        cases front with
        | nil =>
          obtain ⟨rfl, rfl⟩ := List.cons.inj split
          obtain rfl := Except.error.inj (ran.symm.trans failed)
          rfl
        | cons c front =>
          obtain ⟨rfl, rfl⟩ := List.cons.inj split
          obtain ⟨value, found⟩ := fine a List.mem_cons_self
          rw [ran] at found
          cases found
    | ok value =>
      have later : (do let values ← rest.mapM f; pure (value :: values)) = Except.error e ↔
          rest.mapM f = .error e := by
        cases rest.mapM f with
        | error e' => exact Iff.rfl
        | ok values => exact ⟨(nomatch ·), (nomatch ·)⟩
      refine later.trans (ih.trans ?_)
      constructor
      · rintro ⟨front, b, back, rfl, fine, failed⟩
        exact ⟨a :: front, b, back, rfl, List.forall_mem_cons.2 ⟨⟨value, ran⟩, fine⟩, failed⟩
      · rintro ⟨front, b, back, split, fine, failed⟩
        cases front with
        | nil =>
          obtain ⟨rfl, rfl⟩ := List.cons.inj split
          rw [ran] at failed
          cases failed
        | cons c front =>
          obtain ⟨rfl, rfl⟩ := List.cons.inj split
          exact ⟨front, b, back, rfl, (List.forall_mem_cons.1 fine).2, failed⟩

/-- Computations that are the same on the elements are the same on the list. -/
theorem mapM_congr_of_mem {f g : α → Except ε β} {list : List α}
    (same : ∀ a ∈ list, f a = g a) : list.mapM f = list.mapM g := by
  induction list with
  | nil => rfl
  | cons a rest ih =>
    obtain ⟨first, others⟩ := List.forall_mem_cons.1 same
    rw [List.mapM_cons, List.mapM_cons, first, ih others]

/-- What each computation keeps of its element, all of them keep. -/
theorem map_of_mapM_eq_ok {γ : Type} {f : α → Except ε β} {list : List α} {values : List β}
    {g : α → γ} {k : β → γ} (h : list.mapM f = .ok values)
    (kept : ∀ {a b}, f a = .ok b → k b = g a) : values.map k = list.map g := by
  induction list generalizing values with
  | nil =>
    obtain rfl := Except.ok.inj h
    rfl
  | cons a rest ih =>
    rw [List.mapM_cons, bind_eq_ok_iff] at h
    obtain ⟨b, first, others⟩ := h
    obtain ⟨bs, read, whole⟩ := bind_eq_ok_iff.1 others
    obtain rfl := Except.ok.inj whole
    rw [List.map_cons, List.map_cons, kept first, ih read]

/-- The values correspond to the elements one by one. -/
theorem mapM_eq_ok_iff_forall₂ {f : α → Except ε β} {list : List α} {values : List β} :
    list.mapM f = .ok values ↔ List.Forall₂ (fun a b => f a = .ok b) list values := by
  rw [mapM_eq_ok_iff, ← List.forall₂_eq_eq_eq, List.forall₂_map_left_iff,
    List.forall₂_map_right_iff]

/-- Elements that give the same values give the same lists of values. -/
theorem mapM_eq_of_forall₂ {f : α → Except ε β} {list list' : List α}
    (h : List.Forall₂ (fun a b => f a = f b) list list') : list.mapM f = list'.mapM f := by
  induction h with
  | nil => rfl
  | cons first others ih => rw [List.mapM_cons, List.mapM_cons, first, ih]

end SignatureAudit
