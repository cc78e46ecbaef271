/-!
# Physical lines

A physical line ends with its newline, which belongs to it; only the last line of a text may lack
one. So the lines of a text, put together again, are the text (`join_physicalLines`), and the empty
text has no lines.
-/

namespace SignatureAudit.Text

/-- The physical lines of a text. -/
def splitLines : List Char → List (List Char)
  | [] => []
  | c :: cs =>
    if c = '\n' then [c] :: splitLines cs
    else match splitLines cs with
      | [] => [[c]]
      | line :: rest => (c :: line) :: rest

/-- The physical lines of a text. -/
def physicalLines (s : String) : List String := (splitLines s.toList).map String.ofList

/-- A line without the given character at its end, however often it stands there. -/
def dropEnd (c : Char) (cs : List Char) : List Char := (cs.reverse.dropWhile (· == c)).reverse

/-- A physical line without its newline. -/
def withoutNewline (line : String) : String := String.ofList (dropEnd '\n' line.toList)

/-- A line without its newline and without the carriage returns in front of it. -/
def withoutLineEnd (line : String) : String :=
  String.ofList (dropEnd '\r' (dropEnd '\n' line.toList))

theorem flatten_splitLines (cs : List Char) : (splitLines cs).flatten = cs := by
  fun_induction splitLines cs <;> simp_all

/-- Nothing is lost or moved when a text is cut into its lines. -/
theorem join_physicalLines (s : String) : String.join (physicalLines s) = s := by
  rw [← String.toList_inj, String.toList_join, physicalLines, List.flatMap_map]
  simpa [List.flatMap_def] using flatten_splitLines s.toList

end SignatureAudit.Text
