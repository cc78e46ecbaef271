import SignatureAudit.Remainder

/-!
# Space, line ends and comments in TOML

A line ends at a newline, which a carriage return may precede; a carriage return alone has no place
in a document. A comment runs to the end of its line.
-/

namespace SignatureAudit.Toml

/-- A character that may stand in a comment or a literal: a tab, or no control character. -/
def isPlain (c : Char) : Bool := c == '\t' || (0x20 ≤ c.toNat && c.toNat ≠ 0x7F)

/-- A character between the words of a line. -/
def isSpace (c : Char) : Bool := c == ' ' || c == '\t'

/-- What follows the line end at the front of a text. -/
def lineEnd? : (cs : List Char) → Option (Remainder cs)
  | '\n' :: _ => some .tail
  | '\r' :: '\n' :: _ => some (Remainder.tail.widen .tail)
  | _ => none

/-- What follows spaces and line ends. -/
def afterSpace : List Char → List Char
  | '\r' :: '\n' :: rest => afterSpace rest
  | c :: rest => if isSpace c || c == '\n' then afterSpace rest else c :: rest
  | [] => []

theorem afterSpace_length_le (cs : List Char) : (afterSpace cs).length ≤ cs.length := by
  fun_induction afterSpace cs <;> simp_all <;> omega

/-- What follows spaces, line ends and comments. A comment with a character that it must not have
ends in front of that character. -/
def afterGap (inComment : Bool) : List Char → List Char
  | '\r' :: '\n' :: rest => afterGap false rest
  | c :: rest =>
    if c == '\n' then afterGap false rest
    else if inComment then if isPlain c then afterGap true rest else c :: rest
    else if isSpace c then afterGap false rest
    else if c == '#' then afterGap true rest
    else c :: rest
  | [] => []

theorem afterGap_length_le (inComment : Bool) (cs : List Char) :
    (afterGap inComment cs).length ≤ cs.length := by
  fun_induction afterGap inComment cs <;> simp_all <;> omega

/-- What is left behind spaces, line ends and comments. -/
def gap (cs : List Char) : Leftover cs := ⟨afterGap false cs, afterGap_length_le false cs⟩

/-- What follows a comment, if there is one. -/
def afterComment : List Char → List Char
  | '#' :: rest => rest.dropWhile isPlain
  | cs => cs

theorem afterComment_length_le (cs : List Char) : (afterComment cs).length ≤ cs.length := by
  fun_cases afterComment cs with
  | case1 rest => exact Nat.le_succ_of_le (List.dropWhile_sublist _).length_le
  | case2 => exact Nat.le_refl _

/-- What follows the line whose end is at the front of a text, behind spaces and a comment. The last
line of a document has no end of its own. -/
def endOfLine? (cs : List Char) : Option (Leftover cs) := do
  let trailing := afterComment (cs.dropWhile isSpace)
  if trailing.isEmpty then some ⟨[], Nat.zero_le _⟩
  else
    let left ← lineEnd? trailing
    some ⟨left.val, Nat.le_trans (Nat.le_of_lt left.property)
      (Nat.le_trans (afterComment_length_le _) (List.dropWhile_sublist _).length_le)⟩

end SignatureAudit.Toml
