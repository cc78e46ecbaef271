import SignatureAudit.Diagnosis.Pattern
import SignatureAudit.Proofs.Text.CapturePattern
import Mathlib.Data.List.Basic

/-!
# Located error lines are read

`located?` reads the place of an error from its end: the column, the line, the name of the build
file. What it finds in a line of the form `<path>meson.build:<line>:<column>: ERROR: <message>` are
the line and the message that stand there (`located?_append`), because no digit is blank and no
colon is a digit. It finds them in no other line (`located?_eq_some_iff`), so a line has at most one
place.

The same lines are found by a pattern that works its way from the front, a path as long as possible
first (`errorPattern`). As a line has one place at most (`Located.unique`), the preferences of the
pattern do not matter, even where the path has the name of the build file and digits between colons
in it.

> `error_pattern_unambiguous`: the pattern finds something in just the located error lines, what
> its groups capture are the parts of the line, and `located?` reads two of them.
-/

namespace SignatureAudit

/-- Two sets of code points whose ranges do not meet have no character in common. -/
theorem Text.inRanges_eq_false {ranges others : List (Nat × Nat)}
    (apart : ∀ r ∈ ranges, ∀ s ∈ others, r.2 < s.1 ∨ s.2 < r.1) {point : Nat}
    (h : inRanges ranges point = true) : inRanges others point = false := by
  simp only [inRanges, List.any_eq_true, Bool.and_eq_true, decide_eq_true_eq] at h
  obtain ⟨r, hr, low, high⟩ := h
  simp only [inRanges, List.any_eq_false, Bool.and_eq_true, decide_eq_true_eq, not_and]
  intro s hs low'
  have := apart r hr s hs
  omega

theorem Text.isBlank_of_isDecimalDigit {c : Char} (h : isDecimalDigit c = true) :
    isBlank c = false :=
  inRanges_eq_false (by decide) h

namespace Diagnosis

open Text (CapturePattern isBlank isDecimalDigit)

/-- A nonempty run of decimal digits. -/
structure Digits (cs : List Char) : Prop where
  some_digit : cs ≠ []
  digits : ∀ c ∈ cs, isDecimalDigit c = true

instance (cs : List Char) : Decidable (Digits cs) :=
  decidable_of_iff (cs ≠ [] ∧ cs.all isDecimalDigit = true)
    ⟨fun h => ⟨h.1, List.all_eq_true.1 h.2⟩, fun h => ⟨h.1, List.all_eq_true.2 h.2⟩⟩

theorem Digits.reverse {cs : List Char} (h : Digits cs) : Digits cs.reverse :=
  ⟨mt List.reverse_eq_nil_iff.1 h.some_digit, fun c hc => h.digits c (List.mem_reverse.1 hc)⟩

theorem Digits.not_blank {cs : List Char} (h : Digits cs) : ∀ c ∈ cs, isBlank c = false :=
  fun c hc => Text.isBlank_of_isDecimalDigit (h.digits c hc)

theorem takeNumber?_append {cs : List Char} (h : Digits cs) (rest : List Char) :
    takeNumber? (cs ++ ':' :: rest) = some (cs, rest) := by
  have colon : isDecimalDigit ':' = false := by decide
  have taken : (cs ++ ':' :: rest).takeWhile isDecimalDigit = cs := by
    rw [List.takeWhile_append_of_pos h.digits, List.takeWhile_cons_of_neg (by simp [colon]),
      List.append_nil]
  have dropped : (cs ++ ':' :: rest).dropWhile isDecimalDigit = ':' :: rest := by
    rw [List.dropWhile_append_of_pos h.digits, List.dropWhile_cons_of_neg (by simp [colon])]
  obtain ⟨d, ds, rfl⟩ := List.exists_cons_of_ne_nil h.some_digit
  rw [takeNumber?, taken, dropped]
  rfl

/-- The place of an error: `<path>meson.build:<line>:<column>:`. -/
def place (path line column : List Char) : List Char :=
  path ++ buildFileName ++ ':' :: (line ++ ':' :: (column ++ [':']))

/-- From its end, a place reads as its column, its line and the name of the build file. -/
theorem placeLine?_place (path : List Char) {line column : List Char} (hline : Digits line)
    (hcolumn : Digits column) : placeLine? (place path line column) = some line := by
  have back : (place path line column).reverse = ':' :: (column.reverse
      ++ ':' :: (line.reverse ++ ':' :: (buildFileName.reverse ++ path.reverse))) := by
    simp [place]
  have named : buildFileName.reverse.isPrefixOf (buildFileName.reverse ++ path.reverse) = true :=
    List.isPrefixOf_iff_prefix.2 (List.prefix_append _ _)
  rw [placeLine?, back]
  simp only [takeNumber?_append hcolumn.reverse, takeNumber?_append hline.reverse,
    Option.bind_eq_bind, Option.bind_some, named, if_true, List.reverse_reverse]

theorem not_blank_of_mem_place {path line column : List Char}
    (hpath : ∀ c ∈ path, isBlank c = false) (hline : Digits line) (hcolumn : Digits column) :
    ∀ c ∈ place path line column, isBlank c = false := by
  have name : ∀ c ∈ buildFileName, isBlank c = false := by
    have all : buildFileName.all (!isBlank ·) = true := by decide
    simpa using all
  have colon : isBlank ':' = false := by decide
  intro c hc
  simp only [place, List.mem_append, List.mem_cons, List.not_mem_nil, or_false] at hc
  rcases hc with (hc | hc) | rfl | hc | rfl | hc | rfl
  · exact hpath c hc
  · exact name c hc
  · exact colon
  · exact hline.not_blank c hc
  · exact colon
  · exact hcolumn.not_blank c hc
  · exact colon

/-- The line and the message of a located error line are found. -/
theorem located?_append {path line column : List Char} (hpath : ∀ c ∈ path, isBlank c = false)
    (hline : Digits line) (hcolumn : Digits column) (message : List Char) :
    located? (place path line column ++ errorMark ++ message) = some (line, message) := by
  have solid : ∀ c ∈ place path line column, (!isBlank c) = true := fun c hc => by
    rw [not_blank_of_mem_place hpath hline hcolumn c hc]
    rfl
  -- the first blank is the one at the front of the mark
  obtain ⟨mark, first⟩ : ∃ mark, errorMark = ' ' :: mark := ⟨_, rfl⟩
  have blank : isBlank ' ' = true := by decide
  have front : (place path line column ++ (errorMark ++ message)).takeWhile (!isBlank ·)
      = place path line column := by
    rw [List.takeWhile_append_of_pos solid, first, List.cons_append,
      List.takeWhile_cons_of_neg (by simp [blank]), List.append_nil]
  have behind : (place path line column ++ (errorMark ++ message)).dropWhile (!isBlank ·)
      = errorMark ++ message := by
    rw [List.dropWhile_append_of_pos solid, first, List.cons_append,
      List.dropWhile_cons_of_neg (by simp [blank])]
  have marked : errorMark.isPrefixOf (errorMark ++ message) = true :=
    List.isPrefixOf_iff_prefix.2 (List.prefix_append _ _)
  rw [List.append_assoc, located?]
  simp only [front, behind, marked, placeLine?_place path hline hcolumn, if_true]
  rw [List.drop_left]
  rfl

/-! ## Only located error lines are read -/

theorem of_takeNumber? {cs digits rest : List Char} (h : takeNumber? cs = some (digits, rest)) :
    cs = digits ++ ':' :: rest ∧ Digits digits := by
  rw [takeNumber?] at h
  split at h
  · next d ds behind taken dropped =>
    obtain ⟨rfl, rfl⟩ := Prod.mk.inj (Option.some.inj h)
    have whole := List.takeWhile_append_dropWhile (p := isDecimalDigit) (l := cs)
    rw [taken, dropped] at whole
    refine ⟨whole.symm, List.cons_ne_nil _ _, ?_⟩
    intro c hc
    rw [← taken] at hc
    exact List.all_eq_true.1 List.all_takeWhile c hc
  · cases h

theorem exists_place_of_placeLine? {cs line : List Char} (h : placeLine? cs = some line) :
    ∃ path column, Digits line ∧ Digits column ∧ cs = place path line column := by
  rw [placeLine?] at h
  split at h
  · next rest back =>
    simp only [Option.bind_eq_bind, Option.bind_eq_some_iff] at h
    obtain ⟨⟨column, front⟩, readColumn, ⟨digits, path⟩, readLine, h⟩ := h
    split at h
    · next named =>
      obtain rfl := Option.some.inj h
      obtain ⟨rfl, hcolumn⟩ := of_takeNumber? readColumn
      obtain ⟨rfl, hline⟩ := of_takeNumber? readLine
      obtain ⟨path, rfl⟩ := List.isPrefixOf_iff_prefix.1 named
      refine ⟨path.reverse, column.reverse, hline.reverse, hcolumn.reverse, ?_⟩
      rw [← List.reverse_reverse cs, back]
      simp [place]
    · cases h
  · cases h

/-- What is found in a line are the line number and the message of its located error. -/
theorem located?_eq_some_iff {cs line message : List Char} :
    located? cs = some (line, message) ↔ ∃ path column, (∀ c ∈ path, isBlank c = false)
      ∧ Digits line ∧ Digits column ∧ cs = place path line column ++ errorMark ++ message := by
  constructor
  · intro h
    simp only [located?, Option.ite_none_right_eq_some, Option.bind_eq_bind,
      Option.bind_eq_some_iff] at h
    obtain ⟨marked, number, placed, h⟩ := h
    obtain ⟨rfl, rfl⟩ := Prod.mk.inj (Option.some.inj h)
    obtain ⟨path, column, hline, hcolumn, front⟩ := exists_place_of_placeLine? placed
    obtain ⟨message, behind⟩ := List.isPrefixOf_iff_prefix.1 marked
    have whole := List.takeWhile_append_dropWhile (p := (!isBlank ·)) (l := cs)
    refine ⟨path, column, ?_, hline, hcolumn, ?_⟩
    · intro c hc
      have solid : c ∈ cs.takeWhile (!isBlank ·) := by
        rw [front, place]
        exact List.mem_append_left _ (List.mem_append_left _ hc)
      have := List.all_eq_true.1 List.all_takeWhile c solid
      simpa using this
    · rw [← behind, List.drop_left, List.append_assoc, behind, ← front, whole]
  · rintro ⟨path, column, solid, hline, hcolumn, rfl⟩
    exact located?_append solid hline hcolumn message

/-! ## The pattern of located error lines -/

/-- The form of a located error line: `<path>meson.build:<line>:<column>: ERROR: <message>`. -/
def errorPattern : CapturePattern :=
  .sequence .atStart <|
  .sequence (.group "path" (.sequence (.many (!isBlank ·)) (.literal "meson.build"))) <|
  .sequence (.literal ":") <|
  .sequence (.group "line" (.atLeastOne isDecimalDigit)) <|
  .sequence (.literal ":") <|
  .sequence (.group "col" (.atLeastOne isDecimalDigit)) <|
  .sequence (.literal ": ERROR: ") <|
  .sequence (.group "msg" (.many (· != '\n'))) .atFinish

/-- The parts of a located error line. -/
structure Located (text path line column message : List Char) : Prop where
  form : text = place path line column ++ errorMark ++ message
  solid : ∀ c ∈ path, isBlank c = false
  digits : Digits line
  columnDigits : Digits column

/-- What the groups of the pattern capture in a line with these parts. -/
def captures (path line column message : List Char) : List (String × List Char) :=
  [("path", path ++ buildFileName), ("line", line), ("col", column), ("msg", message)]

/-! ## One place at most -/

/-- From its end, a place gives its parts back. -/
theorem place_inj {path line column path' line' column' : List Char} (hline : Digits line)
    (hcolumn : Digits column) (hline' : Digits line') (hcolumn' : Digits column')
    (same : place path line column = place path' line' column') :
    path = path' ∧ line = line' ∧ column = column' := by
  have back : ∀ path line column, (place path line column).reverse = ':' :: (column.reverse
      ++ ':' :: (line.reverse ++ ':' :: (path ++ buildFileName).reverse)) := by
    intro path line column
    simp [place]
  have reversed := congrArg List.reverse same
  rw [back, back, List.cons.injEq] at reversed
  have columns := congrArg takeNumber? reversed.2
  rw [takeNumber?_append hcolumn.reverse, takeNumber?_append hcolumn'.reverse] at columns
  obtain ⟨column_eq, front⟩ := Prod.mk.inj (Option.some.inj columns)
  have lines := congrArg takeNumber? front
  rw [takeNumber?_append hline.reverse, takeNumber?_append hline'.reverse] at lines
  obtain ⟨line_eq, named⟩ := Prod.mk.inj (Option.some.inj lines)
  exact ⟨List.append_cancel_right (List.reverse_injective named), List.reverse_injective line_eq,
    List.reverse_injective column_eq⟩

theorem located?_eq_some_iff_located {text line message : List Char} :
    located? text = some (line, message)
      ↔ ∃ path column, Located text path line column message := by
  rw [located?_eq_some_iff]
  constructor
  · rintro ⟨path, column, solid, hline, hcolumn, form⟩
    exact ⟨path, column, form, solid, hline, hcolumn⟩
  · rintro ⟨path, column, form, solid, hline, hcolumn⟩
    exact ⟨path, column, solid, hline, hcolumn, form⟩

/-- A line is a located error line in one way at most. -/
theorem Located.unique {text path line column message path' line' column' message' : List Char}
    (one : Located text path line column message)
    (other : Located text path' line' column' message') :
    path = path' ∧ line = line' ∧ column = column' ∧ message = message' := by
  have read := located?_eq_some_iff_located.2 ⟨path, column, one⟩
  have read' := located?_eq_some_iff_located.2 ⟨path', column', other⟩
  obtain ⟨-, rfl⟩ := Prod.mk.inj (Option.some.inj (read.symm.trans read'))
  have places := one.form.symm.trans other.form
  rw [List.append_assoc, List.append_assoc] at places
  obtain ⟨paths, lines, columns⟩ := place_inj one.digits one.columnDigits other.digits
    other.columnDigits (List.append_cancel_right places)
  exact ⟨paths, lines, columns, rfl⟩

/-! ## What the pattern takes -/

theorem takes_digits_iff {fresh : Bool} {taken rest : List Char}
    {groups : List (String × List Char)} :
    (CapturePattern.atLeastOne isDecimalDigit).Takes fresh taken rest groups
      ↔ Digits taken ∧ groups = [] := by
  rw [CapturePattern.takes_atLeastOne_iff, ← and_assoc]
  exact and_congr_left' ⟨fun h => ⟨h.1, h.2⟩, fun h => ⟨h.1, h.2⟩⟩

open Text.CapturePattern in
/-- The pattern takes a whole line, in the form of a located error line. -/
theorem takes_errorPattern_iff {taken rest : List Char} {groups : List (String × List Char)} :
    errorPattern.Takes true taken rest groups ↔
      rest = [] ∧ ∃ path line column message, Located taken path line column message ∧
        '\n' ∉ message ∧ groups = captures path line column message := by
  have form : ∀ path line column message : List Char, path ++ "meson.build".toList ++ (":".toList
      ++ (line ++ (":".toList ++ (column ++ (": ERROR: ".toList ++ message)))))
        = place path line column ++ errorMark ++ message := by
    intro path line column message
    have name : buildFileName = "meson.build".toList := rfl
    have mark : ':' :: errorMark = ": ERROR: ".toList := rfl
    rw [place, name]
    simp only [← mark, List.append_assoc, List.cons_append, List.nil_append]
    rfl
  -- four parts of the pattern are free, and what they take settles all the others
  simp only [errorPattern, takes_sequence_iff, takes_atStart_iff, takes_group_iff, takes_many_iff,
    takes_literal_iff, takes_digits_iff, takes_atFinish_iff, ↓existsAndEq, exists_and_left,
    and_assoc, true_and, and_true, List.nil_append, List.append_nil, form]
  constructor
  · rintro ⟨path, solid, line, hline, column, hcolumn, message, unbroken, rfl, rfl, rfl⟩
    refine ⟨rfl, path, line, column, message, ⟨rfl, ?_, hline, hcolumn⟩, ?_, rfl⟩
    · simpa using solid
    · intro broken
      simpa using unbroken '\n' broken
  · rintro ⟨rfl, path, line, column, message, ⟨rfl, solid, hline, hcolumn⟩, unbroken, rfl⟩
    refine ⟨path, ?_, line, hline, column, hcolumn, message, ?_, rfl, rfl, rfl⟩
    · simpa using solid
    · intro c hc
      rw [bne_iff_ne]
      rintro rfl
      exact unbroken hc

/-! ## What the pattern finds -/

/-- A candidate of the pattern takes the whole line, which is a located error line. -/
theorem located_of_mem_candidates {text : List Char} {a : Text.Capture}
    (h : a ∈ errorPattern.candidates true text) :
    ∃ path line column message, Located text path line column message ∧
      a = { taken := text, rest := [], groups := captures path line column message } := by
  obtain ⟨whole, taken⟩ := CapturePattern.mem_candidates_iff.1 h
  obtain ⟨last, path, line, column, message, located, -, groups⟩ := takes_errorPattern_iff.1 taken
  rw [last, List.append_nil] at whole
  rw [← whole] at located
  refine ⟨path, line, column, message, located, ?_⟩
  rw [whole, ← last, ← groups]

/-- The parts of a located error line are a candidate, unless the message is broken. -/
theorem mem_candidates_of_located {text path line column message : List Char}
    (located : Located text path line column message) (unbroken : '\n' ∉ text) :
    { taken := text, rest := [], groups := captures path line column message }
      ∈ errorPattern.candidates true text := by
  have tail : '\n' ∉ message := by
    intro broken
    rw [located.form] at unbroken
    exact unbroken (List.mem_append_right _ broken)
  exact CapturePattern.mem_candidates_iff.2 ⟨(List.append_nil text).symm,
    takes_errorPattern_iff.2 ⟨rfl, path, line, column, message, located, tail, rfl⟩⟩

/-- What the pattern finds in a line are the parts of a located error line. -/
theorem find?_errorPattern_eq_some_iff {text : String} (unbroken : '\n' ∉ text.toList)
    {a : Text.Capture} :
    errorPattern.find? text = some a ↔
      ∃ path line column message, Located text.toList path line column message ∧
        a = { taken := text.toList, rest := [], groups := captures path line column message } := by
  have first : errorPattern.find? text = (errorPattern.candidates true text.toList).head? :=
    CapturePattern.find?_atStart _ text
  rw [first]
  constructor
  · exact fun found => located_of_mem_candidates (List.mem_of_mem_head? found)
  · rintro ⟨path, line, column, message, located, rfl⟩
    have candidate := mem_candidates_of_located located unbroken
    -- there is no other candidate, so the preferred one is this
    obtain ⟨b, others, all⟩ := List.exists_cons_of_ne_nil (List.ne_nil_of_mem candidate)
    obtain ⟨path', line', column', message', located', rfl⟩ := located_of_mem_candidates
      (by rw [all]; exact List.mem_cons_self)
    obtain ⟨rfl, rfl, rfl, rfl⟩ := located.unique located'
    rw [all]
    rfl

/-- **The pattern of error lines is unambiguous.** Take a line without a newline.

* The pattern finds something in it exactly if it has the form
  `<path>meson.build:<line>:<column>: ERROR: <message>`, where the path has no blanks and the two
  numbers are nonempty runs of decimal digits.
* It has this form in one way at most, whatever the path has in it.
* The pattern then takes the whole line and its groups capture the parts of that form.
* The reader of error lines finds the line and the message that the groups capture. -/
theorem error_pattern_unambiguous {text : String} (unbroken : '\n' ∉ text.toList) :
    ((errorPattern.find? text).isSome = true ↔
        ∃ path line column message, Located text.toList path line column message) ∧
      (∀ path line column message path' line' column' message',
        Located text.toList path line column message →
          Located text.toList path' line' column' message' →
            path = path' ∧ line = line' ∧ column = column' ∧ message = message') ∧
      (∀ path line column message, Located text.toList path line column message →
        ∃ a, errorPattern.find? text = some a ∧ a.taken = text.toList ∧
          a.group? "path" = some (path ++ buildFileName) ∧ a.group? "line" = some line ∧
          a.group? "col" = some column ∧ a.group? "msg" = some message) ∧
      located? text.toList = (errorPattern.find? text).bind fun a =>
        (a.group? "line").bind fun line => (a.group? "msg").map fun message => (line, message) := by
  refine ⟨?_, fun _ _ _ _ _ _ _ _ one other => one.unique other, ?_, ?_⟩
  · rw [Option.isSome_iff_exists]
    constructor
    · rintro ⟨a, found⟩
      obtain ⟨path, line, column, message, located, -⟩ :=
        (find?_errorPattern_eq_some_iff unbroken).1 found
      exact ⟨path, line, column, message, located⟩
    · rintro ⟨path, line, column, message, located⟩
      exact ⟨_, (find?_errorPattern_eq_some_iff unbroken).2
        ⟨path, line, column, message, located, rfl⟩⟩
  · intro path line column message located
    exact ⟨_, (find?_errorPattern_eq_some_iff unbroken).2
      ⟨path, line, column, message, located, rfl⟩, rfl, rfl, rfl, rfl, rfl⟩
  · cases found : errorPattern.find? text with
    | none =>
      rw [Option.bind_none, Option.eq_none_iff_forall_ne_some]
      rintro ⟨line, message⟩ read
      obtain ⟨path, column, located⟩ := located?_eq_some_iff_located.1 read
      have some_found := (find?_errorPattern_eq_some_iff unbroken).2
        ⟨path, line, column, message, located, rfl⟩
      rw [found] at some_found
      cases some_found
    | some a =>
      obtain ⟨path, line, column, message, located, rfl⟩ :=
        (find?_errorPattern_eq_some_iff unbroken).1 found
      exact located?_eq_some_iff_located.2 ⟨path, column, located⟩

/-- The name of the build file and numbers stand in front of the place and behind it, too. -/
theorem last_place_before_blank_is_found :
    let text := "meson.build:1:2:meson.build:3:4: ERROR: meson.build:5:6: ERROR: odd"
    let message := "meson.build:5:6: ERROR: odd".toList
    '\n' ∉ text.toList ∧ (∃ a, errorPattern.find? text = some a ∧ a.group? "line" = some ['3'] ∧
      a.group? "msg" = some message) ∧ located? text.toList = some (['3'], message) := by
  intro text message
  have unbroken : '\n' ∉ text.toList := by decide
  have solid : "meson.build:1:2:".toList.all (!isBlank ·) = true := by decide
  have located : Located text.toList "meson.build:1:2:".toList ['3'] ['4'] message :=
    ⟨by decide, fun c hc => by simpa using List.all_eq_true.1 solid c hc, by decide, by decide⟩
  obtain ⟨-, -, found, read⟩ := error_pattern_unambiguous unbroken
  obtain ⟨a, whole, -, -, line, -, tail⟩ := found _ _ _ _ located
  rw [whole] at read
  exact ⟨unbroken, ⟨a, whole, line, tail⟩, by rw [read, Option.bind_some, line, tail]; rfl⟩

end Diagnosis

end SignatureAudit
