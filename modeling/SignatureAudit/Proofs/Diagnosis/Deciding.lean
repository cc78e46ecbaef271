import SignatureAudit.Diagnosis.Basic
import SignatureAudit.Proofs.Diagnosis.Pattern

/-!
# The line that decides

The lines of the output are read until one of them decides: a located error, or a warning where
warnings count as errors. `ofLines_cons` says what one line does: it decides, or it changes what was
found so far. So what stands in front of the first line that decides no longer matters
(`ofLines_of_find?`), and without such a line the output says what its lines leave one after the
other (`ofLines_of_undecided`).
-/

namespace SignatureAudit.Diagnosis

/-- The line decides: it is a located error or a warning that counts as an error, and it neither has
the mark of the sentinel nor misses the call of `project`. -/
def decides (strict : Bool) (line : String) : Bool :=
  !Text.contains line ignoreMark
    && !(Text.contains line "ERROR" && Text.contains line missingProjectText)
    && ((locatedError? line).isSome || strict && Text.contains line "WARNING")

/-- The line reports an error in a file without a call of `project`. -/
def misses (line : String) : Bool :=
  Text.contains line "ERROR" && Text.contains line missingProjectText

/-- What is found after one more line that does not decide. -/
def afterLine (found : Diagnosis) (line : String) : Diagnosis :=
  if Text.contains line ignoreMark then found
  else if misses line then .missingProject
  else if Text.contains line "ERROR" && found = .clean then .drift (Text.trim line)
  else found

theorem decides_of_marked {line : String} (marked : Text.contains line ignoreMark = true)
    (strict : Bool) : decides strict line = false := by
  rw [decides, marked, Bool.not_true, Bool.false_and, Bool.false_and]

theorem decides_of_misses {line : String} (missing : misses line = true) (strict : Bool) :
    decides strict line = false := by
  rw [misses] at missing
  rw [decides, missing, Bool.not_true, Bool.and_false, Bool.false_and]

theorem decides_of_plain {line : String} (plain : Text.contains line ignoreMark = false)
    (declared : misses line = false) (strict : Bool) : decides strict line
      = ((locatedError? line).isSome || strict && Text.contains line "WARNING") := by
  rw [misses] at declared
  rw [decides, plain, declared, Bool.not_false, Bool.true_and, Bool.true_and]

/-- One line decides, or it is left behind. -/
theorem ofLines_cons (strict : Bool) (found : Diagnosis) (line : String) (rest : List String) :
    ofLines strict found (line :: rest)
      = if decides strict line then (locatedError? line).getD (.warning (warningText line))
        else ofLines strict (afterLine found line) rest := by
  rw [ofLines, afterLine]
  -- the check for a missing call of `project` has a name from here on
  show (if _ then _ else if misses line = true then _ else _) = _
  by_cases ignored : Text.contains line ignoreMark = true
  · rw [if_pos ignored, if_pos ignored, decides_of_marked ignored]
    rfl
  by_cases missing : misses line = true
  · rw [if_neg ignored, if_neg ignored, if_pos missing, if_pos missing, decides_of_misses missing]
    rfl
  rw [if_neg ignored, if_neg missing, if_neg ignored, if_neg missing]
  rw [Bool.not_eq_true] at ignored missing
  rw [decides_of_plain ignored missing]
  cases locatedError? line with
  | some d => rfl
  | none =>
    by_cases warned : (strict && Text.contains line "WARNING") = true
    · rw [warned]
      rfl
    · -- what such a line leaves is what it changes in `afterLine`
      rw [Bool.not_eq_true] at warned
      rw [warned, ← apply_ite (ofLines strict · rest)]
      rfl

/-- The first line that decides is what the output says. -/
theorem ofLines_of_find? {strict : Bool} {lines : List String} {line : String}
    (h : lines.find? (decides strict) = some line) (found : Diagnosis) :
    ofLines strict found lines = (locatedError? line).getD (.warning (warningText line)) := by
  induction lines generalizing found with
  | nil => cases h
  | cons first rest ih =>
    rw [List.find?_cons] at h
    rw [ofLines_cons]
    cases decided : decides strict first with
    | true =>
      rw [decided] at h
      obtain rfl : first = line := Option.some.inj h
      rw [if_pos rfl]
    | false =>
      -- such a line changes what was found so far, but the one that decides overrides that
      rw [decided] at h
      exact ih h (afterLine found first)

/-- Without a line that decides, every line is left behind. -/
theorem ofLines_of_undecided {strict : Bool} {lines : List String}
    (undecided : ∀ line ∈ lines, decides strict line = false) (found : Diagnosis) :
    ofLines strict found lines = lines.foldl afterLine found := by
  induction lines generalizing found with
  | nil => rfl
  | cons first rest ih =>
    obtain ⟨here, later⟩ := List.forall_mem_cons.1 undecided
    rw [ofLines_cons, here, List.foldl_cons]
    exact ih later (afterLine found first)

/-- The line has the form `<path>meson.build:<line>:<column>: ERROR: <message>` and names this line
of the build file. -/
def LocatedAt (line : String) (number : Nat) : Prop :=
  ∃ path digits column message,
    line.toList = place path digits column ++ errorMark ++ message ∧
      (∀ c ∈ path, Text.isBlank c = false) ∧ Text.digits64? digits = some number ∧ Digits column

theorem digits_of_digits64? {cs : List Char} {n : Nat} (h : Text.digits64? cs = some n) :
    Digits cs ∧ n < UInt64.size := by
  rw [Text.digits64?] at h
  split at h
  · cases h
  · next written =>
    simp only [Bool.or_eq_true, List.isEmpty_iff, Bool.not_eq_true', not_or, Bool.not_eq_false,
      List.all_eq_true] at written
    split at h
    · next small =>
      rw [← Option.some.inj h]
      exact ⟨⟨written.1, fun c hc => Text.isDecimalDigit_of_isDigit (written.2 c hc)⟩, small⟩
    · cases h

/-- The line has the form `<path>meson.build:<line>:<column>: ERROR: <message>`, with this line of
the build file and this message, blanks around it left out. -/
def Reports (line : String) (number : Nat) (message : String) : Prop :=
  ∃ path digits column text,
    line.toList = place path digits column ++ errorMark ++ text ∧
      (∀ c ∈ path, Text.isBlank c = false) ∧ Text.digits64? digits = some number ∧ Digits column ∧
      message = Text.trim (String.ofList text)

/-- The error of a line is the one that it reports, so a line reports one error at most. -/
theorem locatedError?_eq_some_iff {line : String} {d : Diagnosis} :
    locatedError? line = some d ↔
      ∃ number message, Reports line number message ∧ d = .error number message := by
  constructor
  · intro h
    simp only [locatedError?, Option.bind_eq_bind, Option.bind_eq_some_iff] at h
    obtain ⟨⟨digits, text⟩, found, number, read, same⟩ := h
    obtain ⟨path, column, solid, -, hcolumn, form⟩ := located?_eq_some_iff.1 found
    exact ⟨number, _, ⟨path, digits, column, text, form, solid, read, hcolumn, rfl⟩,
      (Option.some.inj same).symm⟩
  · rintro ⟨number, message, ⟨path, digits, column, text, form, solid, read, hcolumn, rfl⟩, rfl⟩
    have found := located?_append solid (digits_of_digits64? read).1 hcolumn text
    rw [locatedError?, form, found]
    simp only [Option.bind_eq_bind, Option.bind_some, read]

theorem locatedError?_of_locatedAt {line : String} {number : Nat} (h : LocatedAt line number) :
    ∃ message, locatedError? line = some (.error number message) := by
  obtain ⟨path, digits, column, text, form, solid, read, hcolumn⟩ := h
  exact ⟨_, locatedError?_eq_some_iff.2
    ⟨number, _, ⟨path, digits, column, text, form, solid, read, hcolumn, rfl⟩, rfl⟩⟩

theorem LocatedAt.lt {line : String} {number : Nat} (h : LocatedAt line number) :
    number < UInt64.size := by
  obtain ⟨path, digits, column, message, -, -, read, -⟩ := h
  exact (digits_of_digits64? read).2

/-- Where the first line that decides is a located error, the diagnosis is that error. -/
theorem diagnose_of_locatedAt {strict : Bool} {stdout line : String} {number : Nat}
    (first : ((Text.physicalLines stdout).map Text.withoutLineEnd).find? (decides strict)
      = some line)
    (located : LocatedAt line number) :
    ∃ message, diagnose stdout "" strict = .error number message := by
  obtain ⟨message, read⟩ := locatedError?_of_locatedAt located
  refine ⟨message, ?_⟩
  rw [diagnose, if_pos rfl, ofLines_of_find? first, read]
  rfl

end SignatureAudit.Diagnosis
