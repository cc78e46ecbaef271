import SignatureAudit.Text.Search

/-!
# Replacing in parts

A character that a marker does not have parts a text: no occurrence of the marker reaches across it,
so what stands in front of it and behind it is replaced apart (`substitute_append_cons`). A text
without the marker stays as it is (`substitute_of_cutFirst?`).

`occurrenceInduction` reads a text as the search does: it starts with an occurrence, behind which
the search goes on, or with a character at which no occurrence starts.
-/

namespace SignatureAudit.Text

/-- A text with `new` in the place of every occurrence of a nonempty marker. -/
def substitute (marker new cs : List Char) : List Char := new.intercalate (piecesFrom marker 0 cs)

theorem toList_replaceAll (text marker new : String) :
    (replaceAll text marker new).toList = substitute marker.toList new.toList text.toList := by
  rw [replaceAll, String.toList_intercalate, pieces, List.map_map, substitute]
  simp [Function.comp_def]

variable {marker new cs ds front : List Char} {c : Char}

/-! ## One occurrence after the other -/

theorem substitute_nil : substitute marker new [] = [] := by simp [substitute, piecesFrom]

theorem substitute_occurrence (some_char : marker ≠ []) :
    substitute marker new (marker ++ cs) = new ++ substitute marker new cs := by
  obtain ⟨m, ms, rfl⟩ := List.exists_cons_of_ne_nil some_char
  rw [substitute, List.cons_append, piecesFrom, if_pos (by simp [List.isPrefixOf_iff_prefix]),
    piecesFrom_skip, List.intercalate_cons_of_ne_nil (piecesFrom_ne_nil _ _ _)]
  simp [substitute]

theorem substitute_cons (elsewhere : ¬marker <+: c :: cs) :
    substitute marker new (c :: cs) = c :: substitute marker new cs := by
  rw [substitute, piecesFrom, if_neg (by rwa [List.isPrefixOf_iff_prefix]),
    intercalate_modifyHead_cons _ _ _ (piecesFrom_ne_nil _ _ _), substitute]

theorem occurrenceInduction {motive : List Char → Prop} (some_char : marker ≠ []) (nil : motive [])
    (occurrence : ∀ cs, motive cs → motive (marker ++ cs))
    (cons : ∀ c cs, ¬marker <+: c :: cs → motive cs → motive (c :: cs)) (cs : List Char) :
    motive cs := by
  match cs with
  | [] => exact nil
  | c :: cs =>
    by_cases here : marker <+: c :: cs
    · obtain ⟨rest, whole⟩ := here
      have shorter : rest.length < (c :: cs).length := by
        rw [← whole, List.length_append]
        have := List.length_pos_iff.2 some_char
        omega
      rw [← whole]
      exact occurrence rest (occurrenceInduction some_char nil occurrence cons rest)
    · exact cons c cs here (occurrenceInduction some_char nil occurrence cons cs)
termination_by cs.length
decreasing_by
  · exact shorter
  · exact Nat.lt_succ_self _

/-! ## Parts -/

theorem eq_nil_of_prefix_cons (apart : c ∉ front) (h : front <+: c :: ds) : front = [] := by
  cases front with
  | nil => rfl
  | cons f rest => exact absurd (List.mem_cons.2 (.inl (List.cons_prefix_cons.1 h).1.symm)) apart

/-- What does not have a character ends in front of it. -/
theorem prefix_of_prefix_append_cons (apart : c ∉ front) (h : front <+: cs ++ c :: ds) :
    front <+: cs := by
  induction cs generalizing front with
  | nil =>
    obtain rfl := eq_nil_of_prefix_cons apart h
    exact List.nil_prefix
  | cons d cs ih =>
    cases front with
    | nil => exact List.nil_prefix
    | cons f rest =>
      obtain ⟨same, later⟩ := List.cons_prefix_cons.1 h
      exact List.cons_prefix_cons.2 ⟨same, ih (fun hc => apart (List.mem_cons_of_mem _ hc)) later⟩

/-- A character that the marker does not have parts a text. -/
theorem substitute_append_cons (some_char : marker ≠ []) (apart : c ∉ marker) :
    substitute marker new (cs ++ c :: ds)
      = substitute marker new cs ++ c :: substitute marker new ds := by
  have elsewhere {d : Char} {cs : List Char} (h : ¬marker <+: d :: cs) :
      ¬marker <+: d :: (cs ++ c :: ds) :=
    fun front => h (prefix_of_prefix_append_cons apart (List.cons_append ▸ front))
  induction cs using occurrenceInduction some_char with
  | nil =>
    have absent : ¬marker <+: c :: ds := fun front => some_char (eq_nil_of_prefix_cons apart front)
    rw [List.nil_append, substitute_cons absent, substitute_nil, List.nil_append]
  | occurrence cs ih =>
    rw [List.append_assoc, substitute_occurrence some_char, ih, substitute_occurrence some_char,
      List.append_assoc]
  | cons d cs h ih =>
    rw [List.cons_append, substitute_cons (elsewhere h), ih, substitute_cons h, List.cons_append]

/-- Characters that the marker does not have part a text. -/
theorem substitute_append_append {sep : List Char} (some_char : marker ≠ [])
    (parts : sep ≠ []) (apart : ∀ c ∈ sep, c ∉ marker) :
    substitute marker new (cs ++ sep ++ ds)
      = substitute marker new cs ++ sep ++ substitute marker new ds := by
  induction sep generalizing cs with
  | nil => exact absurd rfl parts
  | cons c sep ih =>
    obtain ⟨first, others⟩ := List.forall_mem_cons.1 apart
    rw [List.append_assoc, List.cons_append, substitute_append_cons some_char first]
    cases sep with
    | nil => simp
    | cons d sep =>
      have later : substitute marker new ([] ++ d :: sep ++ ds) = _ :=
        ih (List.cons_ne_nil d sep) others
      rw [substitute_nil, List.nil_append] at later
      rw [later]
      simp

/-! ## Texts without the marker -/

theorem substitute_of_cutFirst? (absent : cutFirst? marker cs = none) :
    substitute marker new cs = cs := by
  induction cs with
  | nil => exact substitute_nil
  | cons c cs ih =>
    rw [cutFirst?] at absent
    split at absent
    · cases absent
    · next elsewhere =>
      rw [List.isPrefixOf_iff_prefix] at elsewhere
      rw [substitute_cons elsewhere, ih (Option.map_eq_none_iff.1 absent)]

end SignatureAudit.Text
