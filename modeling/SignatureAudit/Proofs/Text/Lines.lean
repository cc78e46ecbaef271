import SignatureAudit.Text.Lines

/-!
# Complete texts

A text is *complete* when its last line ends with a newline, or when it has no lines. What is added
behind a complete text starts a line of its own (`physicalLines_append`); behind any other text it
first finishes the line that is still open.

`completePart` is the text without its open line. Added lines, counted from the end, therefore lead
back to the complete part of a text and not to the text:

> `splitLines_append_ended`: behind `cs`, some ended lines add as many lines to those of the
> complete part of `cs` as they are themselves, the open line of `cs` being the front of the first
> one.
-/

namespace SignatureAudit.Text

/-- The last line of the text, if there is one, ends with a newline. -/
def Complete (s : String) : Prop := s = "" ∨ s.toList.getLast? = some '\n'

instance (s : String) : Decidable (Complete s) := inferInstanceAs (Decidable (_ ∨ _))

/-- The front of a text up to its last newline. -/
def completeFront (cs : List Char) : List Char := (cs.reverse.dropWhile (· ≠ '\n')).reverse

/-- What follows the last newline of a text. -/
def openLine (cs : List Char) : List Char := (cs.reverse.takeWhile (· ≠ '\n')).reverse

/-- A text without the line that is not ended. -/
def completePart (s : String) : String := String.ofList (completeFront s.toList)

/-- Lines, each with a newline at its end. -/
def ended (lines : List (List Char)) : List Char := lines.flatMap (· ++ ['\n'])

/-! ## The open line -/

theorem completeFront_append_openLine (cs : List Char) : completeFront cs ++ openLine cs = cs := by
  rw [completeFront, openLine, ← List.reverse_append, List.takeWhile_append_dropWhile,
    List.reverse_reverse]

theorem newline_notMem_openLine (cs : List Char) : '\n' ∉ openLine cs := by
  intro h
  have := List.all_takeWhile (p := fun c : Char => decide (c ≠ '\n')) (l := cs.reverse)
  rw [openLine, List.mem_reverse] at h
  simpa using List.all_eq_true.1 this _ h

/-- The complete front of a text ends with a newline, or is empty. -/
theorem completeFront_eq_nil_or (cs : List Char) :
    completeFront cs = [] ∨ ∃ front, completeFront cs = front ++ ['\n'] := by
  rw [completeFront]
  cases h : cs.reverse.dropWhile (· ≠ '\n') with
  | nil => exact .inl rfl
  | cons c rest =>
    have hc := List.head?_dropWhile_not (fun c : Char => decide (c ≠ '\n')) cs.reverse
    rw [h] at hc
    simp at hc
    exact .inr ⟨rest.reverse, by rw [List.reverse_cons, hc]⟩

/-- A text that is empty or ends with a newline is its own complete front. -/
theorem completeFront_eq_self_iff {cs : List Char} :
    completeFront cs = cs ↔ cs = [] ∨ cs.getLast? = some '\n' := by
  constructor
  · intro h
    rcases completeFront_eq_nil_or cs with hn | ⟨front, hf⟩
    · exact .inl (h.symm.trans hn)
    · rw [← h, hf]
      exact .inr List.getLast?_concat
  · rintro (rfl | h)
    · rfl
    · obtain ⟨front, rfl⟩ := List.getLast?_eq_some_iff.1 h
      simp [completeFront]

theorem completePart_eq_self_iff {s : String} : completePart s = s ↔ Complete s := by
  rw [completePart, ← String.toList_inj, String.toList_ofList, completeFront_eq_self_iff, Complete,
    String.toList_eq_nil_iff]

theorem complete_completePart (s : String) : Complete (completePart s) := by
  rw [completePart, Complete]
  rcases completeFront_eq_nil_or s.toList with h | ⟨front, h⟩
  · exact .inl (by rw [h])
  · refine .inr ?_
    rw [String.toList_ofList, h]
    exact List.getLast?_concat

/-! ## Lines of a text in two parts -/

theorem splitLines_append_newline (front rest : List Char) :
    splitLines (front ++ '\n' :: rest) = splitLines (front ++ ['\n']) ++ splitLines rest := by
  induction front with
  | nil => simp [splitLines]
  | cons c front ih =>
    by_cases hc : c = '\n'
    · subst hc
      simp [splitLines, ih]
    · simp only [List.cons_append, splitLines, if_neg hc, ih]
      -- a text with a newline has a first line, which takes the character in front
      cases h : splitLines (front ++ ['\n']) with
      | nil =>
        have := flatten_splitLines (front ++ ['\n'])
        rw [h] at this
        simp at this
      | cons line lines => simp

/-- What follows the complete front of a text starts a line of its own. -/
theorem splitLines_completeFront_append (cs rest : List Char) :
    splitLines (completeFront cs ++ rest) = splitLines (completeFront cs) ++ splitLines rest := by
  rcases completeFront_eq_nil_or cs with h | ⟨front, h⟩
  · rw [h]
    rfl
  · rw [h, List.append_assoc]
    exact splitLines_append_newline front rest

theorem splitLines_line {line : List Char} (h : '\n' ∉ line) :
    splitLines (line ++ ['\n']) = [line ++ ['\n']] := by
  induction line with
  | nil => rfl
  | cons c line ih =>
    obtain ⟨hc, hline⟩ := List.ne_and_not_mem_of_not_mem_cons h
    simp [splitLines, Ne.symm hc, ih hline]

/-- Ended lines are the lines of the text that they make. -/
theorem splitLines_ended {lines : List (List Char)} (h : ∀ line ∈ lines, '\n' ∉ line) :
    splitLines (ended lines) = lines.map (· ++ ['\n']) := by
  induction lines with
  | nil => rfl
  | cons line lines ih =>
    obtain ⟨hline, hlines⟩ := List.forall_mem_cons.1 h
    have split := splitLines_append_newline line (ended lines)
    rw [splitLines_line hline, ih hlines] at split
    simpa [ended] using split

/-- Ended lines behind a text: the first of them ends the open line of the text. -/
theorem splitLines_append_ended (cs : List Char) {line : List Char} {lines : List (List Char)}
    (hline : '\n' ∉ line) (hlines : ∀ line ∈ lines, '\n' ∉ line) :
    splitLines (cs ++ ended (line :: lines))
      = splitLines (completeFront cs)
        ++ (openLine cs ++ line ++ ['\n']) :: lines.map (· ++ ['\n']) := by
  have joined : cs ++ ended (line :: lines)
      = completeFront cs ++ ended ((openLine cs ++ line) :: lines) := by
    conv => lhs; rw [← completeFront_append_openLine cs]
    simp [ended]
  have finished : ∀ l ∈ (openLine cs ++ line) :: lines, '\n' ∉ l := by
    refine List.forall_mem_cons.2 ⟨?_, hlines⟩
    rw [List.mem_append, not_or]
    exact ⟨newline_notMem_openLine cs, hline⟩
  rw [joined, splitLines_completeFront_append, splitLines_ended finished, List.map_cons]

theorem getLast?_of_mem_splitLines {cs line : List Char} (hcs : cs = [] ∨ cs.getLast? = some '\n')
    (hline : line ∈ splitLines cs) : line.getLast? = some '\n' := by
  induction cs generalizing line with
  | nil => simp [splitLines] at hline
  | cons c cs ih =>
    have hrest : cs = [] ∨ cs.getLast? = some '\n' := by
      rcases hcs with h | h
      · cases h
      · cases cs with
        | nil => exact .inl rfl
        | cons d ds => exact .inr (by rwa [List.getLast?_cons_cons] at h)
    by_cases hc : c = '\n'
    · rw [splitLines, if_pos hc, List.mem_cons] at hline
      rcases hline with rfl | hl
      · rw [hc]
        rfl
      · exact ih hrest hl
    · have hne : cs ≠ [] := by
        rintro rfl
        rcases hcs with h | h
        · cases h
        · exact hc (by simpa using h)
      rw [splitLines, if_neg hc] at hline
      cases h : splitLines cs with
      | nil => exact absurd (by rw [← flatten_splitLines cs, h]; rfl) hne
      | cons first others =>
        rw [h] at hline
        rcases List.mem_cons.1 hline with rfl | hl
        · have hfirst : first ∈ splitLines cs := by
            rw [h]
            exact List.mem_cons_self
          obtain ⟨front, rfl⟩ := List.getLast?_eq_some_iff.1 (ih hrest hfirst)
          exact List.getLast?_concat (l := c :: front)
        · exact ih hrest (by rw [h]; exact List.mem_cons_of_mem _ hl)

/-! ## Texts -/

/-- What follows a complete text starts a line of its own. -/
theorem physicalLines_append {s : String} (hs : Complete s) (t : String) :
    physicalLines (s ++ t) = physicalLines s ++ physicalLines t := by
  have whole : completeFront s.toList = s.toList := by
    have := congrArg String.toList (completePart_eq_self_iff.2 hs)
    rwa [completePart, String.toList_ofList] at this
  have split := splitLines_completeFront_append s.toList t.toList
  rw [whole] at split
  rw [physicalLines, String.toList_append, split, List.map_append, physicalLines, physicalLines]

/-- Every line of a complete text ends with a newline. -/
theorem getLast?_of_mem_physicalLines {s line : String} (hs : Complete s)
    (hline : line ∈ physicalLines s) : line.toList.getLast? = some '\n' := by
  obtain ⟨cs, hcs, rfl⟩ := List.mem_map.1 hline
  rw [String.toList_ofList]
  refine getLast?_of_mem_splitLines ?_ hcs
  rcases hs with rfl | h
  · exact .inl rfl
  · exact .inr h

/-- A text put together from lines that each end with a newline is complete. -/
theorem complete_join {lines : List String} (h : ∀ line ∈ lines, line.toList.getLast? = some '\n') :
    Complete (String.join lines) := by
  rcases List.eq_nil_or_concat lines with rfl | ⟨front, last, rfl⟩
  · exact .inl rfl
  · have hlast := h last (by simp)
    obtain ⟨body, hbody⟩ := List.getLast?_eq_some_iff.1 hlast
    refine .inr ?_
    simp [String.toList_join, hbody]

end SignatureAudit.Text
