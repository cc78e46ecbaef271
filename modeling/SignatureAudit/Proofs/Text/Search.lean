import SignatureAudit.Text.Search

/-!
# Where a marker occurs and what replacing leaves

Searching from the left finds a marker wherever it occurs (`contains_iff`), and what it finds is the
first occurrence (`cutFirst?_eq_some_iff`): no other one leaves a shorter text in front.

Replacing every occurrence of a character leaves none of it, unless what is put in its place has it.
-/

namespace SignatureAudit.Text

/-! ## The first occurrence -/

/-- The marker stands between these two parts of the text, and nowhere further to the left. -/
structure CutsFirst (marker cs before after : List Char) : Prop where
  whole : cs = before ++ marker ++ after
  first : ∀ front rest, cs = front ++ marker ++ rest → before.length ≤ front.length

variable {marker cs before after : List Char}

/-- There is one first occurrence only. -/
theorem CutsFirst.unique {before' after' : List Char} (one : CutsFirst marker cs before after)
    (other : CutsFirst marker cs before' after') : before = before' ∧ after = after' := by
  have length : before.length = before'.length :=
    Nat.le_antisymm (one.first _ _ other.whole) (other.first _ _ one.whole)
  have same := one.whole.symm.trans other.whole
  rw [List.append_assoc, List.append_assoc] at same
  obtain ⟨front, rest⟩ := List.append_inj same length
  exact ⟨front, List.append_cancel_left rest⟩

theorem CutsFirst.occurs (h : CutsFirst marker cs before after) : marker <:+: cs :=
  ⟨before, after, h.whole.symm⟩

theorem cutFirst?_eq_none_iff : cutFirst? marker cs = none ↔ ¬marker <:+: cs := by
  induction cs with
  | nil => simp [cutFirst?]
  | cons c cs ih =>
    rw [cutFirst?, List.infix_cons_iff, ← List.isPrefixOf_iff_prefix]
    by_cases here : marker.isPrefixOf (c :: cs) = true
    · simp [here]
    · simp [here, ih]

theorem cutsFirst_of_cutFirst? (h : cutFirst? marker cs = some (before, after)) :
    CutsFirst marker cs before after := by
  induction cs generalizing before with
  | nil =>
    rw [cutFirst?] at h
    split at h
    · next empty =>
      obtain ⟨rfl, rfl⟩ := Prod.mk.inj (Option.some.inj h)
      rw [List.isEmpty_iff.1 empty]
      exact ⟨rfl, fun _ _ _ => Nat.zero_le _⟩
    · cases h
  | cons c cs ih =>
    rw [cutFirst?] at h
    split at h
    · next here =>
      obtain ⟨rfl, rfl⟩ := Prod.mk.inj (Option.some.inj h)
      obtain ⟨rest, whole⟩ := List.isPrefixOf_iff_prefix.1 here
      refine ⟨?_, fun _ _ _ => Nat.zero_le _⟩
      rw [← whole, List.drop_left]
      rfl
    · next elsewhere =>
      obtain ⟨⟨front, rest⟩, later, same⟩ := Option.map_eq_some_iff.1 h
      obtain ⟨rfl, rfl⟩ := Prod.mk.inj same
      have found := ih later
      refine ⟨congrArg (c :: ·) found.whole, ?_⟩
      intro front' rest' whole
      -- an occurrence at the front would have been found before
      cases front' with
      | nil => exact absurd (List.isPrefixOf_iff_prefix.2 ⟨rest', whole.symm⟩) elsewhere
      | cons d front' =>
        have shorter := found.first front' rest' (List.cons.inj whole).2
        simpa using shorter

/-- What the search finds is the first occurrence. -/
theorem cutFirst?_eq_some_iff :
    cutFirst? marker cs = some (before, after) ↔ CutsFirst marker cs before after := by
  constructor
  · exact cutsFirst_of_cutFirst?
  · intro first
    cases found : cutFirst? marker cs with
    | none => exact absurd first.occurs (cutFirst?_eq_none_iff.1 found)
    | some parts =>
      obtain ⟨front, rest⟩ := parts
      obtain ⟨rfl, rfl⟩ := (cutsFirst_of_cutFirst? found).unique first
      rfl

/-- A character cuts a text behind a part that does not have it. -/
theorem cutsFirst_of_notMem {c : Char} {front : List Char} (h : c ∉ front) (rest : List Char) :
    CutsFirst [c] (front ++ c :: rest) front rest := by
  refine ⟨by simp, ?_⟩
  intro front' rest' same
  rw [List.append_assoc, List.singleton_append] at same
  rcases List.append_eq_append_iff.1 same with ⟨more, rfl, -⟩ | ⟨more, rfl, further⟩
  · simp
  · -- an earlier occurrence would stand in the front part
    cases more with
    | nil => simp
    | cons d more =>
      obtain rfl := (List.cons.inj further).1
      simp at h

theorem contains_iff {text marker : String} :
    contains text marker = true ↔ marker.toList <:+: text.toList := by
  rw [contains, Option.isSome_iff_ne_none, Ne, cutFirst?_eq_none_iff, Classical.not_not]

/-! ## Replacing -/

/-- The pieces of a text between the occurrences of a character do not have it. -/
theorem notMem_of_mem_piecesFrom {c : Char} {cs piece : List Char}
    (h : piece ∈ piecesFrom [c] 0 cs) : c ∉ piece := by
  induction cs generalizing piece with
  | nil =>
    rw [piecesFrom, List.mem_singleton] at h
    simp [h]
  | cons d cs ih =>
    rw [piecesFrom] at h
    by_cases hd : c = d
    · rw [if_pos (by simp [hd]), List.mem_cons] at h
      rcases h with rfl | h
      · exact List.not_mem_nil
      · exact ih h
    · rw [if_neg (by simp [hd])] at h
      -- only the first of the later pieces takes the character in front
      cases hp : piecesFrom [c] 0 cs with
      | nil => exact absurd hp (piecesFrom_ne_nil _ _ _)
      | cons first others =>
        rw [hp, List.modifyHead_cons] at h
        rcases List.mem_cons.1 h with rfl | h
        · have hfirst : first ∈ piecesFrom [c] 0 cs := by
            rw [hp]
            exact List.mem_cons_self
          simp [hd, ih hfirst]
        · exact ih (by rw [hp]; exact List.mem_cons_of_mem _ h)

/-- The characters of joined texts come from the texts or from what stands between them. -/
theorem notMem_intercalate {c : Char} {sep : List Char} {parts : List (List Char)} (hsep : c ∉ sep)
    (hparts : ∀ part ∈ parts, c ∉ part) : c ∉ sep.intercalate parts := by
  induction parts with
  | nil => simp
  | cons part rest ih =>
    obtain ⟨hp, hr⟩ := List.forall_mem_cons.1 hparts
    cases rest with
    | nil => simpa using hp
    | cons next rest =>
      rw [List.intercalate_cons_cons]
      simp only [List.mem_append, not_or]
      exact ⟨⟨hp, hsep⟩, ih hr⟩

/-- Replacing a character leaves none of it. -/
theorem notMem_replaceAll {c : Char} {marker new : String} (hm : marker.toList = [c])
    (hnew : c ∉ new.toList) (text : String) : c ∉ (replaceAll text marker new).toList := by
  rw [replaceAll, String.toList_intercalate, pieces, List.map_map, hm]
  refine notMem_intercalate hnew ?_
  intro part hpart
  obtain ⟨piece, hpiece, rfl⟩ := List.mem_map.1 hpart
  simpa using notMem_of_mem_piecesFrom hpiece

end SignatureAudit.Text
