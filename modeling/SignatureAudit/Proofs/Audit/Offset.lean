import SignatureAudit.Proofs.Audit.Attribution
import SignatureAudit.Proofs.Diagnosis.Precedence
import Mathlib.Algebra.Group.Int.Defs

/-!
# How far an offset reaches

The line of an error is read as an unsigned 64-bit number and its offset is computed with signed
ones. The steps on the way wrap around, so the offset is right as long as it fits itself, even where
the line does not (`offsetOf_eq_difference_iff`). Behind that it is `2 ^ 64` too small: an error far
behind the probed lines counts as one in front of them.

Main result:

> `offset_exact_iff`: the offset of an error at line `line` is `line - before - 1` exactly if
> `line ≤ 2 ^ 63 + before`, and there is an error at every line below `2 ^ 64`.
-/

namespace SignatureAudit

open Diagnosis (Digits buildFileName diagnose errorMark place)

/-! ## An error at every line -/

namespace Text

/-- The decimal digits of a number are read as that number. -/
theorem digits64?_toDigits {n : Nat} (small : n < 2 ^ 64) :
    digits64? (Nat.toDigits 10 n) = some n := by
  have written : (Nat.toDigits 10 n).all Char.isDigit = true :=
    List.all_eq_true.2 fun c hc => Nat.isDigit_of_mem_toDigits (by omega) (by omega) hc
  have value : digitsValue (Nat.toDigits 10 n) = n :=
    Nat.ofDigitChars_toDigits (b := 10) (by omega) (by omega)
  have filled : (Nat.toDigits 10 n).isEmpty = false :=
    List.isEmpty_eq_false_iff.2 Nat.toDigits_ne_nil
  rw [digits64?, if_neg (by simp [filled, written]), value]
  exact if_pos small

end Text

namespace Diagnosis

/-- An error line without a message, about the first column of a line of the build file. -/
def bareError (line : Nat) : List Char := place [] (Nat.toDigits 10 line) ['0'] ++ errorMark

/-- The output that is one error line without a message. -/
def bareOutput (line : Nat) : String := String.ofList (bareError line ++ ['\n'])

theorem mem_bareError {line : Nat} {c : Char} (h : c ∈ bareError line) :
    c ∈ bareError 0 ∨ c.isDigit = true := by
  simp only [bareError, place, List.mem_append, List.mem_cons, List.not_mem_nil, or_false,
    false_or] at h ⊢
  rcases h with (h | h | h | h) | h
  · simp [h]
  · simp [h]
  · exact .inr (Nat.isDigit_of_mem_toDigits (by omega) (by omega) h)
  · simp [h]
  · simp [h]

theorem notMem_bareError {c : Char} (other : c ∉ bareError 0) (noDigit : c.isDigit = false)
    (line : Nat) : c ∉ bareError line := by
  intro h
  rcases mem_bareError h with h | h
  · exact other h
  · rw [noDigit] at h
    cases h

theorem lines_bareOutput (line : Nat) :
    (Text.physicalLines (bareOutput line)).map Text.withoutLineEnd
      = [String.ofList (bareError line)] := by
  have unbroken : '\n' ∉ bareError line := notMem_bareError (by decide) (by decide) line
  obtain ⟨front, last⟩ : ∃ front, bareError line = front ++ [' '] :=
    ⟨place [] (Nat.toDigits 10 line) ['0'] ++ " ERROR:".toList, by
      rw [List.append_assoc]
      rfl⟩
  have stripped : Text.dropEnd '\r' (Text.dropEnd '\n' (bareError line ++ ['\n']))
      = bareError line := by
    simp [Text.dropEnd, last]
  rw [Text.physicalLines, bareOutput, String.toList_ofList, Text.splitLines_line unbroken,
    List.map_singleton, List.map_singleton, Text.withoutLineEnd, String.toList_ofList, stripped]

theorem locatedError?_bareError {line : Nat} (small : line < 2 ^ 64) :
    locatedError? (String.ofList (bareError line)) = some (.error line "") := by
  have column : Digits ['0'] := by decide
  have form : (String.ofList (bareError line)).toList
      = place [] (Nat.toDigits 10 line) ['0'] ++ errorMark ++ [] := by
    rw [String.toList_ofList, List.append_nil]
    rfl
  exact locatedError?_eq_some_iff.2 ⟨line, "", ⟨[], _, _, [], form, List.forall_mem_nil _,
    Text.digits64?_toDigits small, column, by decide⟩, rfl⟩

/-- There is an output about every line whose number fits in 64 bits. -/
theorem diagnose_bareOutput {line : Nat} (small : line < 2 ^ 64) (strict : Bool) :
    diagnose (bareOutput line) "" strict = .error line "" := by
  have absent : ∀ {text : String} {c : Char}, c ∈ text.toList → c ∉ bareError line →
      Text.contains (String.ofList (bareError line)) text = false := by
    intro text c here there
    rw [← Bool.not_eq_true, Text.contains_iff, String.toList_ofList]
    exact fun part => there (part.subset here)
  have plain : Text.contains (String.ofList (bareError line)) ignoreMark = false :=
    absent (c := '$') (by decide) (notMem_bareError (by decide) (by decide) line)
  have declared : misses (String.ofList (bareError line)) = false := by
    have unsaid : Text.contains (String.ofList (bareError line)) missingProjectText = false :=
      absent (c := 'F') (by decide) (notMem_bareError (by decide) (by decide) line)
    rw [misses, unsaid, Bool.and_false]
  have located := locatedError?_bareError small
  rw [diagnose, if_pos rfl, lines_bareOutput, ofLines_cons, decides_of_plain plain declared,
    located]
  rfl

/-- There are errors at no other lines. -/
theorem lt_of_diagnose_eq_error {stdout stderr message : String} {strict : Bool} {line : Nat}
    (said : diagnose stdout stderr strict = .error line message) : line < 2 ^ 64 := by
  have judged : Judged stdout stderr 0 strict .error (some line) message :=
    judged_iff.2 (by rw [said]; exact ⟨rfl, rfl, rfl⟩)
  cases judged with
  | error _ _ reports =>
    obtain ⟨path, digits, column, text, -, -, read, -, -⟩ := reports
    exact (digits_of_digits64? read).2

end Diagnosis

/-! ## Offsets that fit -/

namespace Outcome

variable {line before : Nat}

/-- No step from a line to its offset wraps around: each gives the number that is meant. -/
structure Faithful (line before : Nat) : Prop where
  ofLine : (Int64.ofNat line).toInt = line
  ofBefore : (Int64.ofNat before).toInt = before
  difference : (Int64.ofNat line - Int64.ofNat before).toInt = (line : Int) - before
  offset : offsetOf line before = (line : Int) - before - 1

/-- The offset is right as long as it fits. -/
theorem offsetOf_eq_difference_iff (read : line < 2 ^ 64) (small : before < 2 ^ 63 - 1) :
    offsetOf line before = (line : Int) - before - 1 ↔ line ≤ 2 ^ 63 + before := by
  rw [offsetOf_eq, Int.bmod_def]
  split <;> omega

/-- An offset that does not fit is too small by `2 ^ 64`. -/
theorem offsetOf_of_lt (read : line < 2 ^ 64) (far : 2 ^ 63 + before < line) :
    offsetOf line before = (line : Int) - before - 1 - 2 ^ 64 := by
  rw [offsetOf_eq, Int.bmod_def]
  split <;> omega

/-- Nothing wraps around on the way to an offset as long as the line itself fits. -/
theorem faithful_iff (read : line < 2 ^ 64) (small : before < 2 ^ 63 - 1) :
    Faithful line before ↔ line < 2 ^ 63 := by
  constructor
  · intro faithful
    have fits := (Int64.ofNat line).toInt_lt
    rw [faithful.ofLine] at fits
    omega
  · intro fits
    have line_eq : (Int64.ofNat line).toInt = line := Int64.toInt_ofNat_of_lt fits
    have before_eq : (Int64.ofNat before).toInt = before := Int64.toInt_ofNat_of_lt (by omega)
    refine ⟨line_eq, before_eq, ?_, ?_⟩
    · rw [Int64.toInt_sub, line_eq, before_eq]
      exact Int.bmod_eq_of_le (by omega) (by omega)
    · exact (offsetOf_eq_difference_iff read small).2 (by omega)

end Outcome

/-- A located error is reported as a failure, in the part of the probe that its offset falls
into. -/
theorem Probe.reportOf_error (p : Probe) (before line : Nat) (message stdout stderr : String) :
    let o := Outcome.ofDiagnosis before (.error line message) stdout stderr
    p.reportOf o = .failure p.description (p.site (Outcome.offsetOf line before)) o p.lines := rfl

/-- An error behind the probed lines counts as one in the use of the result while its offset fits,
and as one in front of them from there on. -/
theorem Probe.site_beyond (p : Probe) {before line : Nat} (read : line < 2 ^ 64)
    (small : before < 2 ^ 63 - 1) (beyond : before + p.lines.length < line) :
    p.site (Outcome.offsetOf line before)
      = if line ≤ 2 ^ 63 + before then .returnValue else .setup := by
  have length : p.lines.length = p.setup.length + p.call.length + p.usage.length := by
    rw [Probe.lines, List.length_append, List.length_append]
  by_cases fits : line ≤ 2 ^ 63 + before
  · rw [if_pos fits, (Outcome.offsetOf_eq_difference_iff read small).2 fits, Probe.site,
      if_neg (by omega), if_neg (by omega)]
  · rw [if_neg fits, Outcome.offsetOf_of_lt read (by omega)]
    exact p.site_of_neg (by omega)

namespace Outcome

/-- **How far offsets are exact.** Take the output of a run of the build tool on a file with
`before` lines in front of the probed ones, in which an error at line `line` decides.

* The offset is `line - before - 1` exactly if `line ≤ 2 ^ 63 + before`; otherwise it is `2 ^ 64`
  less than that.
* No step of computing it wraps around exactly if `line < 2 ^ 63`.
* So an error behind the probed lines is reported in the use of the result, and from line
  `2 ^ 63 + before + 1` on as one of the setup.

Every line below `2 ^ 64`, and no other one, is the line of some error. -/
theorem offset_exact_iff {before : Nat} (small : before < 2 ^ 63 - 1) :
    (∀ stdout stderr strict line message,
      diagnose stdout stderr strict = .error line message →
        let o := ofDiagnosis before (diagnose stdout stderr strict) stdout stderr
        line < 2 ^ 64 ∧
          (o.offset = some ((line : Int) - before - 1) ↔ line ≤ 2 ^ 63 + before) ∧
          (2 ^ 63 + before < line → o.offset = some ((line : Int) - before - 1 - 2 ^ 64)) ∧
          (Faithful line before ↔ line < 2 ^ 63) ∧
          ∀ p : Probe, before + p.lines.length < line →
            p.reportOf o = .failure p.description
              (if line ≤ 2 ^ 63 + before then .returnValue else .setup) o p.lines) ∧
      ∀ line < 2 ^ 64, ∃ stdout, ∀ strict, diagnose stdout "" strict = .error line "" := by
  refine ⟨?_, fun line read => ⟨_, Diagnosis.diagnose_bareOutput read⟩⟩
  intro stdout stderr strict line message said o
  have read : line < 2 ^ 64 := Diagnosis.lt_of_diagnose_eq_error said
  have offset : o.offset = some (offsetOf line before) := by
    simp only [o, said]
    rfl
  refine ⟨read, ?_, ?_, faithful_iff read small, ?_⟩
  · rw [offset, Option.some_inj]
    exact offsetOf_eq_difference_iff read small
  · intro far
    rw [offset, offsetOf_of_lt read far]
  · intro p beyond
    rw [← p.site_beyond read small beyond]
    simp only [o, said]
    exact p.reportOf_error before line message stdout stderr

/-- The last line with an exact offset behind five others does not fit in a signed number itself. -/
theorem offset_exact_at_border :
    let stdout := "../meson.build:9223372036854775813:0: ERROR: beyond\n"
    let o := ofDiagnosis 5 (diagnose stdout "" true) stdout ""
    let p : Probe := { description := "message", call := ["message()"] }
    5 < 2 ^ 63 - 1 ∧ diagnose stdout "" true = .error (2 ^ 63 + 5) "beyond" ∧
      5 + p.lines.length < 2 ^ 63 + 5 ∧ o.offset = some (2 ^ 63 - 1) ∧
      ¬Faithful (2 ^ 63 + 5) 5 ∧ p.reportOf o = .failure "message" .returnValue o ["message()"] ∧
      ∃ stdout, ∀ strict, diagnose stdout "" strict = .error (2 ^ 63 + 6) "" := by
  intro stdout o p
  have said : diagnose stdout "" true = .error (2 ^ 63 + 5) "beyond" := by decide
  obtain ⟨exact_at, everywhere⟩ := offset_exact_iff (by decide : 5 < 2 ^ 63 - 1)
  obtain ⟨-, exact_iff, -, faithful, reported⟩ := exact_at stdout "" true _ _ said
  exact ⟨by decide, said, by decide, exact_iff.2 (by decide), mt faithful.1 (by decide),
    reported p (by decide), everywhere _ (by decide)⟩

/-- An error behind the only probed line has a negative offset and is reported as one of the
setup. -/
theorem offset_of_last_line_negative :
    let stdout := "../meson.build:18446744073709551615:0: ERROR: beyond\n"
    let o := ofDiagnosis 2 (diagnose stdout "" false) stdout ""
    let p : Probe := { description := "message()", call := ["message()"] }
    diagnose stdout "" false = .error (2 ^ 64 - 1) "beyond" ∧ 2 + p.lines.length < 2 ^ 64 - 1 ∧
      o.offset = some (-4) ∧ p.reportOf o = .failure "message()" .setup o ["message()"] ∧
      ¬∀ before stdout stderr strict line message, before < 2 ^ 63 - 1 →
        diagnose stdout stderr strict = .error line message →
          (ofDiagnosis before (diagnose stdout stderr strict) stdout stderr).offset
            = some ((line : Int) - before - 1) := by
  intro stdout o p
  have said : diagnose stdout "" false = .error (2 ^ 64 - 1) "beyond" := by decide
  have offset : o.offset = some (-4) := by
    simp only [o, said]
    rfl
  refine ⟨said, by decide, offset, ?_, ?_⟩
  · simp only [o, said]
    rfl
  · intro exact_everywhere
    have promised := exact_everywhere 2 stdout "" false _ _ (by decide) said
    exact absurd (offset.symm.trans promised) (by decide)

end Outcome

end SignatureAudit
