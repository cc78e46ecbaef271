import SignatureAudit.Proofs.Text.Replacement
import SignatureAudit.Proofs.Text.Search

/-!
# Filling the places of a marker

`Filled` says what replacing means: each occurrence of a marker, as they are found from the left,
has a text of its own put in its place, and what stands between two occurrences is kept. Cutting a
text at a marker finds just these occurrences (`piecesFrom_of_cutsFirst`), so joining the pieces
fills their places (`exists_filled_substitute`).

What is put in may stand next to what is left of another marker. No marker arises from that, if what
is put in is enclosed in a character that the marker does not have (`Filled.absent`).
-/

namespace SignatureAudit.Text

/-- The last text is the one before it with the places of a marker filled. The occurrences have the
numbers from the first up to the second, and `fill` tells what takes the place of each. -/
inductive Filled (marker : List Char) (fill : Nat → List Char) :
    Nat → Nat → List Char → List Char → Prop
  | rest {i : Nat} {cs : List Char} (absent : ¬marker <:+: cs) : Filled marker fill i i cs cs
  | occurrence {i j : Nat} {cs before after filled : List Char}
      (cut : CutsFirst marker cs before after) (later : Filled marker fill (i + 1) j after filled) :
    Filled marker fill i j cs (before ++ fill i ++ filled)

variable {marker cs ds before after filled : List Char} {fill : Nat → List Char} {i j : Nat}
  {c : Char}

/-! ## Cutting at the first occurrence -/

/-- A text is read from one first occurrence to the next. -/
theorem cutInduction {motive : List Char → Prop} (some_char : marker ≠ [])
    (absent : ∀ cs, ¬marker <:+: cs → motive cs)
    (cut : ∀ cs before after, CutsFirst marker cs before after → motive after → motive cs)
    (cs : List Char) : motive cs := by
  cases found : cutFirst? marker cs with
  | none => exact absent cs (cutFirst?_eq_none_iff.1 found)
  | some parts =>
    obtain ⟨before, after⟩ := parts
    have first := cutFirst?_eq_some_iff.1 found
    have shorter : after.length < cs.length := by
      have := List.length_pos_iff.2 some_char
      rw [first.whole]
      simp only [List.length_append]
      omega
    exact cut cs before after first (cutInduction some_char absent cut after)
termination_by cs.length

/-- In front of the first occurrence there is none. -/
theorem CutsFirst.absent (some_char : marker ≠ []) (cut : CutsFirst marker cs before after) :
    ¬marker <:+: before := by
  rintro ⟨front, rest, earlier⟩
  have whole : cs = front ++ marker ++ (rest ++ marker ++ after) := by
    rw [cut.whole, ← earlier]
    simp only [List.append_assoc]
  have length := congrArg List.length earlier
  have := cut.first _ _ whole
  have := List.length_pos_iff.2 some_char
  simp only [List.length_append] at length
  omega

theorem piecesFrom_of_absent (absent : ¬marker <:+: cs) : piecesFrom marker 0 cs = [cs] := by
  induction cs with
  | nil => rfl
  | cons c cs ih =>
    rw [List.infix_cons_iff, not_or] at absent
    rw [piecesFrom, if_neg (by rw [List.isPrefixOf_iff_prefix]; exact absent.1), ih absent.2]
    rfl

/-- The first piece ends where the first occurrence starts. -/
theorem piecesFrom_of_cutsFirst (some_char : marker ≠ []) (cut : CutsFirst marker cs before after) :
    piecesFrom marker 0 cs = before :: piecesFrom marker 0 after := by
  induction before generalizing cs with
  | nil =>
    obtain ⟨m, ms, rfl⟩ := List.exists_cons_of_ne_nil some_char
    obtain rfl : cs = m :: (ms ++ after) := cut.whole
    have here : (m :: ms).isPrefixOf (m :: (ms ++ after)) = true :=
      List.isPrefixOf_iff_prefix.2 ⟨after, rfl⟩
    rw [piecesFrom, if_pos here, piecesFrom_skip]
    simp
  | cons c before ih =>
    obtain rfl : cs = c :: (before ++ marker ++ after) := cut.whole
    have elsewhere : ¬marker.isPrefixOf (c :: (before ++ marker ++ after)) = true := by
      rw [List.isPrefixOf_iff_prefix]
      rintro ⟨rest, whole⟩
      exact absurd (cut.first [] rest whole.symm) (by simp)
    have later : CutsFirst marker (before ++ marker ++ after) before after := by
      refine ⟨rfl, fun front rest whole => ?_⟩
      have := cut.first (c :: front) rest (congrArg (c :: ·) whole)
      simpa using this
    rw [piecesFrom, if_neg elsewhere, ih later]
    rfl

/-- Replacing a marker fills each of its places alike. -/
theorem exists_filled_substitute (some_char : marker ≠ []) (new cs : List Char) (i : Nat) :
    ∃ j, Filled marker (fun _ => new) i j cs (substitute marker new cs) := by
  induction cs using cutInduction some_char generalizing i with
  | absent cs absent =>
    refine ⟨i, ?_⟩
    rw [substitute_of_cutFirst? (cutFirst?_eq_none_iff.2 absent)]
    exact .rest absent
  | cut cs before after cut ih =>
    obtain ⟨j, later⟩ := ih (i + 1)
    refine ⟨j, ?_⟩
    rw [substitute, piecesFrom_of_cutsFirst some_char cut,
      List.intercalate_cons_of_ne_nil (piecesFrom_ne_nil _ _ _)]
    exact .occurrence cut later

/-! ## No marker arises -/

/-- An occurrence does not reach across a character that the marker does not have. -/
theorem infix_or_infix_of_append_cons (apart : c ∉ marker) (h : marker <:+: cs ++ c :: ds) :
    marker <:+: cs ∨ marker <:+: ds := by
  induction cs with
  | nil =>
    rcases List.infix_cons_iff.1 h with front | later
    · rw [eq_nil_of_prefix_cons apart front]
      exact .inl List.nil_infix
    · exact .inr later
  | cons d cs ih =>
    rcases List.infix_cons_iff.1 h with front | later
    · exact .inl (prefix_of_prefix_append_cons apart front).isInfix
    · exact (ih later).imp_left fun inner => inner.trans (List.suffix_cons d cs).isInfix

/-- If what is put in is enclosed in a character that `other` does not have, and does not have
`other` inside, then `other` occurs afterwards only if it occurred before and is not the marker. -/
theorem Filled.absent {other : List Char} (h : Filled marker fill i j cs filled)
    (some_char : marker ≠ []) (apart : c ∉ other)
    (enclosed : ∀ i, ∃ inner, fill i = c :: inner ++ [c] ∧ ¬other <:+: inner)
    (gone : other = marker ∨ ¬other <:+: cs) : ¬other <:+: filled := by
  induction h with
  | rest absent => exact gone.elim (fun same => same ▸ absent) id
  | @occurrence i j cs before after filled cut later ih =>
    obtain ⟨inner, same, clean⟩ := enclosed i
    have kept : ¬other <:+: before := by
      rcases gone with rfl | missing
      · exact cut.absent some_char
      · intro inside
        rw [cut.whole, List.append_assoc] at missing
        exact missing (inside.trans (List.prefix_append _ _).isInfix)
    have behind : other = marker ∨ ¬other <:+: after := by
      refine gone.imp_right fun missing inside => missing ?_
      rw [cut.whole]
      exact inside.trans (List.suffix_append _ _).isInfix
    intro occurs
    have parts : before ++ fill i ++ filled = before ++ c :: (inner ++ c :: filled) := by
      simp [same]
    rw [parts] at occurs
    rcases infix_or_infix_of_append_cons apart occurs with front | back
    · exact kept front
    · rcases infix_or_infix_of_append_cons apart back with inside | rest
      · exact clean inside
      · exact ih behind rest

end SignatureAudit.Text
