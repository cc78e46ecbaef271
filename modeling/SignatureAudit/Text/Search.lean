/-!
# Finding a text inside another

A marker is searched from the left and its occurrences do not overlap. `pieces` cuts a text at
every occurrence; replacing a marker is joining the pieces with something else, which
`intercalate_pieces` justifies: joined with the marker itself they give the text back.
-/

namespace SignatureAudit.Text

/-- What follows `front`, if the text starts with it. -/
def dropFront? (front text : String) : Option String :=
  if front.toList.isPrefixOf text.toList then
    some (String.ofList (text.toList.drop front.toList.length))
  else none

/-- The text before and after the first occurrence of a marker. -/
def cutFirst? (marker : List Char) : List Char → Option (List Char × List Char)
  | [] => if marker.isEmpty then some ([], []) else none
  | c :: cs =>
    if marker.isPrefixOf (c :: cs) then some ([], (c :: cs).drop marker.length)
    else (cutFirst? marker cs).map fun (before, after) => (c :: before, after)

/-- The text before and after the first occurrence of a marker. -/
def cut? (marker text : String) : Option (String × String) :=
  (cutFirst? marker.toList text.toList).map fun (before, after) =>
    (String.ofList before, String.ofList after)

/-- Whether a marker occurs in a text. -/
def contains (text marker : String) : Bool := (cutFirst? marker.toList text.toList).isSome

/-- The pieces of a text between the occurrences of a marker, the first and the last included;
`skip` counts the characters that still belong to the occurrence found before. -/
def piecesFrom (marker : List Char) : (skip : Nat) → List Char → List (List Char)
  | _, [] => [[]]
  | skip + 1, _ :: cs => piecesFrom marker skip cs
  | 0, c :: cs =>
    if marker.isPrefixOf (c :: cs) then [] :: piecesFrom marker (marker.length - 1) cs
    else (piecesFrom marker 0 cs).modifyHead (c :: ·)

/-- The pieces of a text between the occurrences of a nonempty marker. -/
def pieces (marker text : String) : List String :=
  (piecesFrom marker.toList 0 text.toList).map String.ofList

/-- Puts `new` in the place of every occurrence of a nonempty marker. -/
def replaceAll (text marker new : String) : String := new.intercalate (pieces marker text)

theorem piecesFrom_ne_nil (marker : List Char) (skip : Nat) (cs : List Char) :
    piecesFrom marker skip cs ≠ [] := by
  fun_induction piecesFrom marker skip cs <;> simp_all [List.modifyHead_eq_nil_iff]

theorem piecesFrom_skip (marker : List Char) (skip : Nat) (cs : List Char) :
    piecesFrom marker skip cs = piecesFrom marker 0 (cs.drop skip) := by
  induction skip generalizing cs with
  | zero => rfl
  | succ n ih => cases cs with
    | nil => simp [piecesFrom]
    | cons c cs => simp [piecesFrom, ih]

theorem intercalate_modifyHead_cons (sep : List Char) (c : Char) (ps : List (List Char))
    (h : ps ≠ []) : sep.intercalate (ps.modifyHead (c :: ·)) = c :: sep.intercalate ps := by
  match ps with
  | [p] => simp
  | p :: q :: rest => simp [List.intercalate_cons_cons]

/-- Joined with the marker itself, the pieces give the text back. -/
theorem intercalate_piecesFrom {marker : List Char} (h : marker ≠ []) (cs : List Char) :
    marker.intercalate (piecesFrom marker 0 cs) = cs := by
  match cs with
  | [] => simp [piecesFrom]
  | c :: cs =>
    rw [piecesFrom]
    split
    · next front =>
      have rest := intercalate_piecesFrom h (cs.drop (marker.length - 1))
      obtain ⟨tail, whole⟩ := List.isPrefixOf_iff_prefix.1 front
      rw [piecesFrom_skip, List.intercalate_cons_of_ne_nil (piecesFrom_ne_nil _ _ _), rest]
      obtain ⟨m, ms, rfl⟩ := List.exists_cons_of_ne_nil h
      obtain ⟨rfl, rfl⟩ := List.cons.inj whole
      simp
    · rw [intercalate_modifyHead_cons _ _ _ (piecesFrom_ne_nil _ _ _), intercalate_piecesFrom h cs]
termination_by cs.length

/-- Nothing is lost when a text is cut at a marker. -/
theorem intercalate_pieces {marker : String} (h : marker ≠ "") (text : String) :
    marker.intercalate (pieces marker text) = text := by
  rw [← String.toList_inj, String.toList_intercalate, pieces, List.map_map]
  simpa [Function.comp_def] using intercalate_piecesFrom (by simpa using h) text.toList

end SignatureAudit.Text
