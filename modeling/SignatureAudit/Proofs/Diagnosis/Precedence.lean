import SignatureAudit.Proofs.Diagnosis.Deciding
import SignatureAudit.Proofs.Text.Search

/-!
# What takes precedence in the output

`ofLines` carries what it found so far from line to line. `Judged` says the same of the output as a
whole. Lines with the mark of the sentinel are left out. Then:

1. Anything on standard error is a crash.
2. Otherwise the first decisive line is what the run says, an error if it reports one and a warning
   if it does not.
3. Without a decisive line, a line that misses the call of `project` takes precedence over the error
   lines in an unknown form, wherever either stands.
4. Otherwise the first error line in an unknown form is what the run says.

A line that misses the call of `project` is never decisive itself, even if it has the form of a
located error. An error whose line number does not fit in 64 bits is not decisive either, and it is
a warning if the line has that word too and warnings count as errors.

Main result:

> `diagnose_judged`: the diagnosis is what the rule says, it depends on nothing but the lines without
> the mark, and counting warnings as errors changes it into a warning or not at all.
-/

namespace SignatureAudit.Diagnosis

/-! ## The rule -/

/-- The text stands somewhere in the line. -/
def Occurs (text line : String) : Prop := text.toList <:+: line.toList

theorem contains_iff_occurs {text line : String} :
    Text.contains line text = true ↔ Occurs text line := Text.contains_iff

instance (text line : String) : Decidable (Occurs text line) :=
  decidable_of_iff _ contains_iff_occurs

/-- The lines of the output without the mark of the sentinel, and without what ends them. -/
def readable (stdout : String) : List String :=
  ((Text.physicalLines stdout).map Text.withoutLineEnd).filter fun line => ¬Occurs ignoreMark line

/-- An error line about a file without a call of `project`. -/
def MissesProject (line : String) : Prop := Occurs "ERROR" line ∧ Occurs missingProjectText line

/-- What a line says as a warning: what follows the first `WARNING:` or else the whole line, blanks
around it left out. -/
inductive Warns (line : String) : (message : String) → Prop
  | marked {before after : List Char}
      (first : Text.CutsFirst "WARNING:".toList line.toList before after) :
      Warns line (Text.trim (String.ofList after))
  | bare (unmarked : ¬Occurs "WARNING:" line) : Warns line (Text.trim line)

/-- The line decides what the run says, unless an earlier one does. -/
def Decisive (strict : Bool) (line : String) : Prop :=
  ¬MissesProject line ∧
    ((∃ number message, Reports line number message) ∨ strict = true ∧ Occurs "WARNING" line)

/-- The first of the lines that have the property. -/
structure First (p : String → Prop) (lines : List String) (line : String) : Prop where
  holds : p line
  leftmost : ∃ front back, lines = front ++ line :: back ∧ ∀ earlier ∈ front, ¬p earlier

/-- What a run of the build tool says, as a kind, a line of the build file and a message. -/
inductive Judged (stdout stderr : String) (before : Nat) (strict : Bool) :
    Kind → (line? : Option Nat) → (message : String) → Prop
  | crash (loud : stderr ≠ "") :
      Judged stdout stderr before strict .crash (some (before + 1)) "Meson has crashed"
  | error {line message : String} {number : Nat} (quiet : stderr = "")
      (first : First (Decisive strict) (readable stdout) line)
      (reports : Reports line number message) :
      Judged stdout stderr before strict .error (some number) message
  | warning {line message : String} (quiet : stderr = "")
      (first : First (Decisive strict) (readable stdout) line)
      (unlocated : ∀ number text, ¬Reports line number text) (warns : Warns line message) :
      Judged stdout stderr before strict .warning (some (before + 1)) message
  | missingProject {line : String} (quiet : stderr = "")
      (undecided : ∀ line ∈ readable stdout, ¬Decisive strict line)
      (present : line ∈ readable stdout) (missing : MissesProject line) :
      Judged stdout stderr before strict .missingProject (some (before + 1)) missingProjectText
  | drift {line : String} (quiet : stderr = "")
      (undecided : ∀ line ∈ readable stdout, ¬Decisive strict line)
      (declared : ∀ line ∈ readable stdout, ¬MissesProject line)
      (first : First (Occurs "ERROR") (readable stdout) line) :
      Judged stdout stderr before strict .drift none (Text.trim line)
  | clean (quiet : stderr = "") (undecided : ∀ line ∈ readable stdout, ¬Decisive strict line)
      (silent : ∀ line ∈ readable stdout, ¬Occurs "ERROR" line) :
      Judged stdout stderr before strict .clean none ""

/-! ## What is checked of one line -/

theorem misses_iff {line : String} : misses line = true ↔ MissesProject line := by
  rw [misses, Bool.and_eq_true, contains_iff_occurs, contains_iff_occurs, MissesProject]

theorem locatedError?_eq_none_iff {line : String} :
    locatedError? line = none ↔ ∀ number message, ¬Reports line number message := by
  rw [Option.eq_none_iff_forall_ne_some]
  constructor
  · intro none number message reports
    exact none _ (locatedError?_eq_some_iff.2 ⟨number, message, reports, rfl⟩)
  · intro unlocated d found
    obtain ⟨number, message, reports, -⟩ := locatedError?_eq_some_iff.1 found
    exact unlocated number message reports

theorem warns_iff {line message : String} : Warns line message ↔ warningText line = message := by
  have cut : Text.cut? "WARNING:" line
      = (Text.cutFirst? "WARNING:".toList line.toList).map fun parts =>
          (String.ofList parts.1, String.ofList parts.2) := rfl
  constructor
  · rintro (⟨first⟩ | ⟨unmarked⟩)
    · rw [warningText, cut, Text.cutFirst?_eq_some_iff.2 first]
      rfl
    · rw [warningText, cut, Text.cutFirst?_eq_none_iff.2 unmarked]
      rfl
  · rintro rfl
    rw [warningText, cut]
    cases found : Text.cutFirst? "WARNING:".toList line.toList with
    | none => exact .bare (Text.cutFirst?_eq_none_iff.1 found)
    | some parts => exact .marked (Text.cutFirst?_eq_some_iff.1 found)

theorem decides_iff {strict : Bool} {line : String} (plain : ¬Occurs ignoreMark line) :
    decides strict line = true ↔ Decisive strict line := by
  have located : (locatedError? line).isSome = true
      ↔ ∃ number message, Reports line number message := by
    rw [Option.isSome_iff_ne_none, Ne, locatedError?_eq_none_iff]
    simp
  rw [← contains_iff_occurs, Bool.not_eq_true] at plain
  rw [Decisive, ← misses_iff, ← located, ← contains_iff_occurs]
  show (!_ && !misses line && (_ || _)) = true ↔ _
  simp [plain]

/-! ## What all lines leave -/

theorem plain_of_readable {stdout line : String} (h : line ∈ readable stdout) :
    ¬Occurs ignoreMark line := by
  simpa using (List.mem_filter.1 h).2

/-- Lines with the mark of the sentinel change nothing. -/
theorem ofLines_filter (strict : Bool) (found : Diagnosis) (lines : List String) :
    ofLines strict found (lines.filter fun line => ¬Occurs ignoreMark line)
      = ofLines strict found lines := by
  induction lines generalizing found with
  | nil => rfl
  | cons line rest ih =>
    by_cases ignored : Occurs ignoreMark line
    · have marked := contains_iff_occurs.2 ignored
      rw [List.filter_cons_of_neg (by simpa using ignored), ofLines_cons, decides_of_marked marked,
        afterLine, if_pos marked, ih]
      rfl
    · rw [List.filter_cons_of_pos (by simpa using ignored), ofLines_cons, ofLines_cons, ih]

theorem diagnose_quiet (stdout : String) (strict : Bool) :
    diagnose stdout "" strict = ofLines strict .clean (readable stdout) := by
  rw [diagnose, if_pos rfl, readable, ofLines_filter]

/-- Of lines that do not decide, one that misses the call of `project` counts most, then what was
found before, then the first error line. -/
theorem foldl_afterLine {lines : List String} (plain : ∀ line ∈ lines, ¬Occurs ignoreMark line)
    (found : Diagnosis) :
    lines.foldl afterLine found
      = if lines.any misses then .missingProject
        else if found = .clean then
          ((lines.find? (Text.contains · "ERROR")).map fun line => drift (Text.trim line)).getD .clean
        else found := by
  induction lines generalizing found with
  | nil =>
    by_cases fresh : found = .clean
    · simp [fresh]
    · simp [fresh]
  | cons line rest ih =>
    obtain ⟨here, later⟩ := List.forall_mem_cons.1 plain
    rw [← contains_iff_occurs] at here
    rw [List.foldl_cons, ih later, afterLine, if_neg here, List.any_cons, List.find?_cons]
    cases misses line with
    | true => simp
    | false =>
      -- an error line is kept only if nothing was found before it, so the first one stays
      cases Text.contains line "ERROR" with
      | true => by_cases fresh : found = .clean <;> simp [fresh]
      | false => simp

theorem first_iff {p : String → Prop} {q : String → Bool} {lines : List String}
    (agree : ∀ line ∈ lines, (q line = true ↔ p line)) {line : String} :
    First p lines line ↔ lines.find? q = some line := by
  rw [List.find?_eq_some_iff_append]
  constructor
  · rintro ⟨holds, front, back, rfl, earlier⟩
    refine ⟨(agree line (by simp)).2 holds, front, back, rfl, ?_⟩
    intro other mem
    rw [Bool.not_eq_true', ← Bool.not_eq_true, agree other (by simp [mem])]
    exact earlier other mem
  · rintro ⟨holds, front, back, rfl, earlier⟩
    refine ⟨(agree line (by simp)).1 holds, front, back, rfl, ?_⟩
    intro other mem
    rw [← agree other (by simp [mem]), Bool.not_eq_true, ← Bool.not_eq_true']
    exact earlier other mem

section
variable {stdout : String} {strict : Bool}

theorem first_decisive_iff {line : String} :
    First (Decisive strict) (readable stdout) line
      ↔ (readable stdout).find? (decides strict) = some line :=
  first_iff fun _ mem => decides_iff (plain_of_readable mem)

theorem undecided_iff :
    (∀ line ∈ readable stdout, ¬Decisive strict line)
      ↔ (readable stdout).find? (decides strict) = none := by
  rw [List.find?_eq_none]
  exact forall₂_congr fun line mem => not_congr (decides_iff (plain_of_readable mem)).symm

theorem diagnose_of_first {line : String}
    (first : First (Decisive strict) (readable stdout) line) :
    diagnose stdout "" strict = (locatedError? line).getD (.warning (warningText line)) := by
  rw [diagnose_quiet]
  exact ofLines_of_find? (first_decisive_iff.1 first) .clean

theorem diagnose_of_undecided (undecided : ∀ line ∈ readable stdout, ¬Decisive strict line) :
    diagnose stdout "" strict
      = if (readable stdout).any misses then .missingProject
        else (((readable stdout).find? (Text.contains · "ERROR")).map
          fun line => drift (Text.trim line)).getD .clean := by
  have none : ∀ line ∈ readable stdout, decides strict line = false := by
    intro line mem
    rw [← Bool.not_eq_true, decides_iff (plain_of_readable mem)]
    exact undecided line mem
  rw [diagnose_quiet, ofLines_of_undecided none,
    foldl_afterLine fun _ mem => plain_of_readable mem, if_pos rfl]

/-! ## The rule and the diagnosis -/

variable {stderr : String} {before : Nat} {kind : Kind} {line? : Option Nat} {message : String}

/-- The diagnosis has the kind, the line and the message that are judged. -/
theorem diagnose_of_judged (h : Judged stdout stderr before strict kind line? message) :
    (diagnose stdout stderr strict).kind = kind
      ∧ (diagnose stdout stderr strict).line? before = line?
      ∧ (diagnose stdout stderr strict).message = message := by
  cases h with
  | crash loud =>
    rw [diagnose, if_neg loud]
    exact ⟨rfl, rfl, rfl⟩
  | error quiet first reports =>
    have read := locatedError?_eq_some_iff.2 ⟨_, _, reports, rfl⟩
    rw [quiet, diagnose_of_first first, read]
    exact ⟨rfl, rfl, rfl⟩
  | warning quiet first unlocated warns =>
    rw [quiet, diagnose_of_first first, locatedError?_eq_none_iff.2 unlocated, warns_iff.1 warns]
    exact ⟨rfl, rfl, rfl⟩
  | missingProject quiet undecided present missing =>
    have some_missing : (readable stdout).any misses = true :=
      List.any_eq_true.2 ⟨_, present, misses_iff.2 missing⟩
    rw [quiet, diagnose_of_undecided undecided, if_pos some_missing]
    exact ⟨rfl, rfl, rfl⟩
  | drift quiet undecided declared first =>
    have none_missing : ¬(readable stdout).any misses = true := by
      rw [List.any_eq_true]
      rintro ⟨line, mem, missing⟩
      exact declared line mem (misses_iff.1 missing)
    have found := (first_iff fun _ _ => contains_iff_occurs).1 first
    rw [quiet, diagnose_of_undecided undecided, if_neg none_missing, found]
    exact ⟨rfl, rfl, rfl⟩
  | clean quiet undecided silent =>
    have none_missing : ¬(readable stdout).any misses = true := by
      rw [List.any_eq_true]
      rintro ⟨line, mem, missing⟩
      exact silent line mem (misses_iff.1 missing).1
    have none_found : (readable stdout).find? (Text.contains · "ERROR") = none :=
      List.find?_eq_none.2 fun line mem => mt contains_iff_occurs.1 (silent line mem)
    rw [quiet, diagnose_of_undecided undecided, if_neg none_missing, none_found]
    exact ⟨rfl, rfl, rfl⟩

/-- Every output is judged. -/
theorem exists_judged (stdout stderr : String) (before : Nat) (strict : Bool) :
    ∃ kind line? message, Judged stdout stderr before strict kind line? message := by
  by_cases loud : stderr ≠ ""
  · exact ⟨_, _, _, .crash loud⟩
  have quiet := Decidable.not_not.1 loud
  cases decided : (readable stdout).find? (decides strict) with
  | some line =>
    have first := first_decisive_iff.2 decided
    by_cases located : ∃ number message, Reports line number message
    · obtain ⟨number, message, reports⟩ := located
      exact ⟨_, _, _, .error quiet first reports⟩
    · have unlocated : ∀ number message, ¬Reports line number message :=
        fun number message reports => located ⟨number, message, reports⟩
      exact ⟨_, _, _, .warning quiet first unlocated (warns_iff.2 rfl)⟩
  | none =>
    have undecided := undecided_iff.2 decided
    by_cases missed : ∃ line ∈ readable stdout, MissesProject line
    · obtain ⟨line, present, missing⟩ := missed
      exact ⟨_, _, _, .missingProject quiet undecided present missing⟩
    have declared : ∀ line ∈ readable stdout, ¬MissesProject line :=
      fun line mem missing => missed ⟨line, mem, missing⟩
    cases found : (readable stdout).find? (Text.contains · "ERROR") with
    | some line =>
      have first := (first_iff fun _ _ => contains_iff_occurs).2 found
      exact ⟨_, _, _, .drift quiet undecided declared first⟩
    | none =>
      have silent : ∀ line ∈ readable stdout, ¬Occurs "ERROR" line :=
        fun line mem => mt contains_iff_occurs.2 (List.find?_eq_none.1 found line mem)
      exact ⟨_, _, _, .clean quiet undecided silent⟩

theorem judged_iff :
    Judged stdout stderr before strict kind line? message ↔
      (diagnose stdout stderr strict).kind = kind
        ∧ (diagnose stdout stderr strict).line? before = line?
        ∧ (diagnose stdout stderr strict).message = message := by
  constructor
  · exact diagnose_of_judged
  · rintro ⟨rfl, rfl, rfl⟩
    obtain ⟨kind, line?, message, judged⟩ := exists_judged stdout stderr before strict
    obtain ⟨rfl, rfl, rfl⟩ := diagnose_of_judged judged
    exact judged

/-! ## What changes the diagnosis -/

/-- Outputs with the same lines to read say the same. -/
theorem diagnose_congr {other : String} (same : readable other = readable stdout) :
    diagnose other stderr strict = diagnose stdout stderr strict := by
  by_cases quiet : stderr = ""
  · rw [quiet, diagnose_quiet, diagnose_quiet, same]
  · rw [diagnose, diagnose, if_neg quiet, if_neg quiet]

/-- A decisive line stays decisive when warnings count too. -/
theorem Decisive.of_lax {line : String} (h : Decisive false line) : Decisive true line := by
  obtain ⟨declared, located | ⟨off, -⟩⟩ := h
  · exact ⟨declared, .inl located⟩
  · cases off

/-- Counting warnings as errors adds warnings and changes nothing else. -/
theorem diagnose_strict (stdout stderr : String) :
    diagnose stdout stderr true = diagnose stdout stderr false
      ∨ (diagnose stdout stderr true).kind = .warning := by
  by_cases loud : stderr ≠ ""
  · rw [diagnose, diagnose, if_neg loud, if_neg loud]
    exact .inl rfl
  rw [Decidable.not_not.1 loud]
  cases decided : (readable stdout).find? (decides true) with
  | none =>
    have undecided := undecided_iff.2 decided
    have lax : ∀ line ∈ readable stdout, ¬Decisive false line :=
      fun line mem => mt Decisive.of_lax (undecided line mem)
    rw [diagnose_of_undecided undecided, diagnose_of_undecided lax]
    exact .inl rfl
  | some line =>
    have first := first_decisive_iff.2 decided
    rw [diagnose_of_first first]
    cases located : locatedError? line with
    | none => exact .inr rfl
    | some d =>
      -- a located error decides either way, and nothing in front of it does
      obtain ⟨number, message, reports, rfl⟩ := locatedError?_eq_some_iff.1 located
      obtain ⟨⟨declared, -⟩, front, back, whole, earlier⟩ := first
      have lax : First (Decisive false) (readable stdout) line :=
        ⟨⟨declared, .inl ⟨number, message, reports⟩⟩, front, back, whole,
          fun other mem => mt Decisive.of_lax (earlier other mem)⟩
      rw [diagnose_of_first lax, located]
      exact .inl rfl

end

/-- One rule decides what a run of the build tool says.

* The diagnosis has the kind, the line and the message that the rule gives, and the rule gives just
  one of each.
* It depends on nothing but the lines without the mark of the sentinel.
* Counting warnings as errors leaves it as it is or makes it a warning, so what has no line then has
  none without warnings either. -/
theorem diagnose_judged (stdout stderr : String) (before : Nat) (strict : Bool) :
    (∀ kind line? message, Judged stdout stderr before strict kind line? message ↔
        (diagnose stdout stderr strict).kind = kind
          ∧ (diagnose stdout stderr strict).line? before = line?
          ∧ (diagnose stdout stderr strict).message = message)
      ∧ (∀ other, readable other = readable stdout →
          diagnose other stderr strict = diagnose stdout stderr strict)
      ∧ (diagnose stdout stderr true = diagnose stdout stderr false
          ∨ (diagnose stdout stderr true).kind = .warning)
      ∧ ((diagnose stdout stderr true).line? before = none →
          (diagnose stdout stderr false).line? before = none) := by
  refine ⟨fun _ _ _ => judged_iff, fun _ => diagnose_congr, diagnose_strict stdout stderr, ?_⟩
  intro nowhere
  rcases diagnose_strict stdout stderr with same | warned
  · rw [← same]
    exact nowhere
  · -- a warning points at the first probed line
    cases said : diagnose stdout stderr true with
    | warning message =>
      rw [said] at nowhere
      cases nowhere
    | _ =>
      rw [said] at warned
      cases warned

theorem marked_line_is_never_read :
    diagnose "$IGNORE$ ERROR\nERROR: odd\n" "" true = diagnose "ERROR: odd\n" "" true
      ∧ Judged "ERROR: odd\n" "" 4 true .drift none "ERROR: odd"
      ∧ (diagnose "ERROR: odd\n" "" false).line? 4 = none := by
  obtain ⟨judged, unread, -, nowhere⟩ := diagnose_judged "ERROR: odd\n" "" 4 true
  exact ⟨unread _ (by decide), (judged _ _ _).2 (by decide), nowhere (by decide)⟩

end SignatureAudit.Diagnosis
