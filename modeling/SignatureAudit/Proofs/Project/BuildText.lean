import SignatureAudit.Project.BuildText
import SignatureAudit.Proofs.Text.Lines
import SignatureAudit.Proofs.Text.Search

/-!
# Adding lines to the build file and taking them back

An escaped line has no newline, so each added line is one physical line (`physicalLines_append`).
Taking as many lines away again as were added leads back to the complete part of the text
(`popLines_append`): a text whose last line is not ended loses that line, because the first added
line was written behind it.
-/

namespace SignatureAudit.Project.BuildText

open Text (Complete completePart completeFront openLine ended physicalLines splitLines)

variable {location text : String} {lines : List String}

/-! ## Added lines -/

theorem newline_notMem_escape (location line : String) : '\n' ∉ (escape location line).toList :=
  Text.notMem_replaceAll (by decide) (by decide) _

/-- Lines as they are added. -/
def escaped (location : String) (lines : List String) : List (List Char) :=
  lines.map fun line => (escape location line).toList

theorem newline_notMem_of_mem_escaped {line : List Char} (h : line ∈ escaped location lines) :
    '\n' ∉ line := by
  obtain ⟨source, -, rfl⟩ := List.mem_map.1 h
  exact newline_notMem_escape location source

theorem toList_append (location text : String) (lines : List String) :
    (append location text lines).toList = text.toList ++ ended (escaped location lines) := by
  simp [append, String.toList_join, ended, escaped, List.flatMap_map]

/-- Added lines are ended. -/
theorem complete_append (ht : Complete text) : Complete (append location text lines) := by
  rcases List.eq_nil_or_concat lines with rfl | ⟨front, last, rfl⟩
  · simpa [append] using ht
  · refine .inr ?_
    simp [toList_append, ended, escaped]

/-- Each added line is one physical line. -/
theorem physicalLines_append (ht : Complete text) :
    physicalLines (append location text lines)
      = physicalLines text ++ lines.map fun line => escape location line ++ "\n" := by
  rw [append, Text.physicalLines_append ht]
  congr 1
  have split := Text.splitLines_ended fun line (h : line ∈ escaped location lines) =>
    newline_notMem_of_mem_escaped h
  have joined : (String.join (lines.map fun line => escape location line ++ "\n")).toList
      = ended (escaped location lines) := by
    simp [String.toList_join, ended, escaped, List.flatMap_map]
  rw [physicalLines, joined, split, escaped, List.map_map, List.map_map]
  refine List.map_congr_left fun line _ => ?_
  rw [← String.toList_inj]
  simp

/-! ## Lines taken away -/

/-- Taking away as many lines as were added leaves the complete part of the text. -/
theorem popLines_append (location text : String) (hl : lines ≠ []) :
    popLines (append location text lines) lines.length = .ok (completePart text) := by
  obtain ⟨line, rest, rfl⟩ := List.exists_cons_of_ne_nil hl
  have split : physicalLines (append location text (line :: rest))
      = physicalLines (completePart text)
        ++ ((openLine text.toList ++ (escape location line).toList ++ ['\n'])
          :: (escaped location rest).map (· ++ ['\n'])).map String.ofList := by
    have added : escaped location (line :: rest)
        = (escape location line).toList :: escaped location rest := rfl
    rw [physicalLines, toList_append, added,
      Text.splitLines_append_ended _ (newline_notMem_escape location line)
        fun _ h => newline_notMem_of_mem_escaped h]
    simp [physicalLines, completePart]
  have count : (physicalLines (append location text (line :: rest))).length
      = (physicalLines (completePart text)).length + (line :: rest).length := by
    rw [split]
    simp [escaped]
  rw [popLines]
  simp only [count]
  rw [if_pos (Nat.le_add_left _ _), Nat.add_sub_cancel, split, List.take_left,
    Text.join_physicalLines]

/-- Of a complete text, any of its lines can be taken and the text is still complete. -/
theorem complete_join_of_subset (ht : Complete text) {kept : List String}
    (h : ∀ line ∈ kept, line ∈ physicalLines text) : Complete (String.join kept) :=
  Text.complete_join fun line hline => Text.getLast?_of_mem_physicalLines ht (h line hline)

theorem complete_of_removeLine {index : Nat} {left : String} (ht : Complete text)
    (h : removeLine text index = .ok left) : Complete left := by
  simp only [removeLine] at h
  split at h
  · obtain rfl := Except.ok.inj h
    exact complete_join_of_subset ht fun line hline => List.mem_of_mem_eraseIdx hline
  · cases h

theorem complete_of_popLines {n : Nat} {left : String} (ht : Complete text)
    (h : popLines text n = .ok left) : Complete left := by
  simp only [popLines] at h
  split at h
  · obtain rfl := Except.ok.inj h
    exact complete_join_of_subset ht fun line hline => List.mem_of_mem_take hline
  · cases h

end SignatureAudit.Project.BuildText
