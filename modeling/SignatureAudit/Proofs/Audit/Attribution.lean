import SignatureAudit.Proofs.Audit.Untouched
import SignatureAudit.Proofs.Diagnosis.Deciding
import SignatureAudit.Proofs.Project.Answer
import Mathlib.Algebra.Group.Nat.Defs

/-!
# Which line a failure blames

The tool counts the physical lines of the build file from one; an outcome counts from the first
probed line, and a report quotes a line of the probe and names the part that it stands in. Each line
of a probe is one physical line, behind those of the build file and in front of the sentinel
(`physicalLines_shown`), so the three ways of counting agree (`offsetOf_behind`), and a diagnostic
about any other line blames none of the probed ones.
-/

namespace SignatureAudit

open Project (BuildText.append BuildText.escape BuildText.lineCount)
open Session (sentinel shown textOf)
open Text (Complete physicalLines)

/-! ## The lines that the tool sees -/

theorem physicalLines_shown (location : String) {start : String} (complete : Complete start)
    (lines : List String) :
    physicalLines (shown location start lines)
      = physicalLines start
        ++ ((lines.map fun line => BuildText.escape location line ++ "\n")
          ++ [sentinel ++ "\n"]) := by
  rw [← Session.append_sentinel, Project.BuildText.physicalLines_append complete, List.map_append,
    List.map_singleton, Session.escape_sentinel]

/-- Behind the lines of the build file, each line of a probe is one line, and the last line is the
sentinel. -/
theorem lines_shown (location : String) {start : String} (complete : Complete start)
    (lines : List String) :
    let seen := physicalLines (shown location start lines)
    seen.length = BuildText.lineCount start + lines.length + 1 ∧
      (∀ i, (h : i < lines.length) → seen[BuildText.lineCount start + i]?
        = some (BuildText.escape location lines[i] ++ "\n")) ∧
      seen.getLast? = some (sentinel ++ "\n") := by
  intro seen
  have split : seen = _ := physicalLines_shown location complete lines
  refine ⟨?_, fun i h => ?_, ?_⟩
  · rw [split, List.length_append, List.length_append, List.length_map, List.length_singleton]
    exact (Nat.add_assoc _ _ _).symm
  · rw [split, BuildText.lineCount, List.getElem?_append_right (Nat.le_add_right _ _),
      Nat.add_sub_cancel_left, List.getElem?_append_left (by simpa using h), List.getElem?_map,
      List.getElem?_eq_getElem h]
    rfl
  · rw [split, ← List.append_assoc, List.getLast?_concat]

/-! ## Offsets -/

namespace Outcome

theorem offsetOf_eq (line before : Nat) :
    offsetOf line before = ((line : Int) - before - 1).bmod (2 ^ 64) := by
  have size : Int64.size = 2 ^ 64 := rfl
  rw [offsetOf, Int64.toInt_sub, Int64.toInt_sub, Int64.toInt_ofNat', Int64.toInt_ofNat',
    Int64.toInt_one, size, Int.bmod_sub_bmod, Int.sub_sub, Int.bmod_sub_bmod, Int.add_comm,
    ← Int.sub_sub, Int.sub_bmod_bmod]
  congr 1
  omega

/-- The `i`-th line behind the others has the offset `i`. -/
theorem offsetOf_behind (before : Nat) {i : Nat} (small : i < 2 ^ 63) :
    offsetOf (before + 1 + i) before = i := by
  have difference : ((before + 1 + i : Nat) : Int) - before - 1 = i := by omega
  rw [offsetOf_eq, difference]
  exact Int.bmod_eq_of_le (by omega) (by omega)

/-- A line in front has a negative offset. -/
theorem offsetOf_front {line before : Nat} (front : line ≤ before) (small : before < 2 ^ 63) :
    offsetOf line before < 0 := by
  have same : offsetOf line before = (line : Int) - before - 1 := by
    rw [offsetOf_eq]
    exact Int.bmod_eq_of_le (by omega) (by omega)
  omega

/-- A line behind all others has a large offset, or none that counts lines. -/
theorem offsetOf_beyond {line before n : Nat} (beyond : before + n < line)
    (small : line < 2 ^ 64) : (n : Int) ≤ offsetOf line before ∨ offsetOf line before < 0 := by
  rw [offsetOf_eq, Int.bmod_def]
  -- from `2 ^ 63` on the difference wraps around and is negative
  split <;> omega

end Outcome

/-! ## Reports -/

namespace Report

/-- The probed line at a natural offset is quoted, if there is one. -/
theorem culprit?_ofNat {o : Outcome} {i : Nat} (h : o.offset = some i) (lines : List String) :
    culprit? o lines = lines[i]? := by
  rw [culprit?, h]
  rfl

theorem culprit?_of_neg {o : Outcome} {offset : Int} (h : o.offset = some offset)
    (negative : offset < 0) (lines : List String) : culprit? o lines = none := by
  rw [culprit?, h]
  cases offset with
  | ofNat n => exact absurd negative (Int.not_lt.2 (Int.natCast_nonneg n))
  | negSucc n => rfl

theorem failureText_of_culprit {description line : String} {site : Site} {o : Outcome}
    {lines : List String} (h : culprit? o lines = some line) :
    failureText description site o lines
      = description ++ ": " ++ complaint site o ++ (" (at `" ++ line ++ "`)") := by
  rw [failureText, h]

theorem failureText_of_none {description : String} {site : Site} {o : Outcome}
    {lines : List String} (h : culprit? o lines = none) :
    failureText description site o lines = description ++ ": " ++ complaint site o := by
  rw [failureText, h]
  exact String.append_empty

end Report

namespace Probe

/-- The part that a line of a probe stands in. -/
theorem site_eq (p : Probe) (i : Nat) :
    (i < p.setup.length → p.site i = .setup) ∧
      (p.setup.length ≤ i → i < p.setup.length + p.call.length → p.site i = .call) ∧
      (p.setup.length + p.call.length ≤ i → p.site i = .returnValue) := by
  rw [site]
  refine ⟨fun h => if_pos (by omega), fun h h' => ?_, fun h => ?_⟩
  · rw [if_neg (by omega), if_pos (by omega)]
  · rw [if_neg (by omega), if_neg (by omega)]

theorem site_of_neg (p : Probe) {offset : Int} (negative : offset < 0) : p.site offset = .setup :=
  if_pos (by omega)

end Probe

/-- What a report of a failure at a line of the build file says about the probed lines: with
`before` lines in front of them, a probed line is quoted and named after the part that it stands in,
a line in front of them counts as setup, and only probed lines are quoted. -/
structure Probe.Blames (p : Probe) (before line : Nat) (o : Outcome) (site : Site) : Prop where
  probed : ∀ i, (h : i < p.lines.length) → line = before + 1 + i →
    o.offset = some (i : Int) ∧ Report.culprit? o p.lines = some p.lines[i] ∧
      Report.failureText p.description site o p.lines
        = p.description ++ ": " ++ Report.complaint site o ++ (" (at `" ++ p.lines[i] ++ "`)") ∧
      (i < p.setup.length → site = .setup) ∧
      (p.setup.length ≤ i → i < p.setup.length + p.call.length → site = .call) ∧
      (p.setup.length + p.call.length ≤ i → site = .returnValue)
  front : line ≤ before → (∃ offset, o.offset = some offset ∧ offset < 0) ∧ site = .setup ∧
    Report.failureText p.description site o p.lines
      = p.description ++ ": " ++ Report.complaint site o
  beyond : before + p.lines.length < line →
    Report.failureText p.description site o p.lines
      = p.description ++ ": " ++ Report.complaint site o

theorem Probe.blames (p : Probe) {before line : Nat} (small : before + p.lines.length < 2 ^ 63)
    (read : line < 2 ^ 64) {o : Outcome}
    (located : o.offset = some (Outcome.offsetOf line before)) :
    p.Blames before line o (p.site (Outcome.offsetOf line before)) where
  probed i h same := by
    have offset : Outcome.offsetOf line before = i := by
      rw [same]
      exact Outcome.offsetOf_behind before (by omega)
    rw [offset] at located ⊢
    have quoted : Report.culprit? o p.lines = some p.lines[i] := by
      rw [Report.culprit?_ofNat located, List.getElem?_eq_getElem h]
    exact ⟨located, quoted, Report.failureText_of_culprit quoted, p.site_eq i⟩
  front h := by
    have negative := Outcome.offsetOf_front h (by omega)
    exact ⟨⟨_, located, negative⟩, p.site_of_neg negative,
      Report.failureText_of_none (Report.culprit?_of_neg located negative _)⟩
  beyond h := by
    refine Report.failureText_of_none ?_
    rcases Outcome.offsetOf_beyond h read with large | negative
    · obtain ⟨m, hm⟩ := Int.eq_ofNat_of_zero_le (Int.le_trans (Int.natCast_nonneg _) large)
      rw [hm] at located large
      rw [Report.culprit?_ofNat located]
      exact List.getElem?_eq_none (by omega)
    · exact Report.culprit?_of_neg located negative _

/-! ## Probes in a run -/

/-- In run number `number`, shown a build file with this text, the tool ends with this output,
before the user asks to stop, and leaves at least so many lines in the build file. -/
structure Tool.Says (tool : Tool) (number : Nat) (text : String)
    (output : Tool.Output) (room : Nat) : Prop where
  result : ∀ call, textOf call.project = .ok text → (tool number call).result = .ok output
  silent : ∀ call, textOf call.project = .ok text → (tool number call).interrupts = false
  leaves : ∀ call, textOf call.project = .ok text →
    ∃ left, textOf (tool number call).project = .ok left ∧ room ≤ BuildText.lineCount left

namespace Audit

variable {tool : Tool} {v : Verdicts} {start : String}

/-- Whatever the tool does, a probe shows it the text of the build file with the lines of the probe
and the sentinel behind it. -/
theorem seen_of_probe (readable : textOf v.session.tree = .ok start) (tool : Tool) (p : Probe) :
    (runOn (runStep tool (.probe p)) v).2.session.seen
      = v.session.seen ++ [.ok (shown v.session.location start p.lines)] := by
  obtain ⟨tree, htree, ran⟩ := Session.run_probe_eq readable tool p.lines
  let call := v.session.probeCall tree
  have alike := Session.alike_edit (Project.BuildText.popLines · (p.lines.length + 1))
    (v.session.answered call (tool v.session.calls.size call))
  have calls : (runOn (Session.probe tool p.lines) v.session).2.calls
      = v.session.calls.push call := by
    rw [ran]
    exact alike.calls
  rw [session_probe, Session.seen, calls, Array.toList_push, List.map_append]
  exact congrArg (fun text => v.session.seen ++ [text]) htree

/-- Where its first deciding line is a located error, an output gives an outcome at that line. -/
theorem exists_outcome_of_locatedAt {warningsAsErrors : Bool} {output : Tool.Output}
    (quiet : output.stderr = "") {text : String}
    (first : ((physicalLines output.stdout).map Text.withoutLineEnd).find?
      (Diagnosis.decides warningsAsErrors) = some text)
    {line : Nat} (located : Diagnosis.LocatedAt text line) (before : Nat) :
    ∃ o : Outcome, Session.outcomeOf warningsAsErrors before (.ok output) = .ok o ∧
      o.kind = .error ∧ o.offset = some (Outcome.offsetOf line before) := by
  obtain ⟨message, read⟩ := Diagnosis.diagnose_of_locatedAt first located
  refine ⟨.ofDiagnosis before (.error line message) output.stdout output.stderr, ?_, rfl, rfl⟩
  rw [Session.outcomeOf, quiet, read]

/-- A probe that the tool answers with a located error fails, and its report blames a line. -/
theorem run_probe_located (readable : textOf v.session.tree = .ok start)
    (going : v.session.interrupted = false) {p : Probe} {output : Tool.Output}
    (spoken : tool.Says v.session.calls.size (shown v.session.location start p.lines) output
      (p.lines.length + 1))
    (quiet : output.stderr = "") {text : String}
    (first : ((physicalLines output.stdout).map Text.withoutLineEnd).find?
      (Diagnosis.decides v.session.settings.warningsAsErrors) = some text)
    {line : Nat} (located : Diagnosis.LocatedAt text line)
    (small : BuildText.lineCount start + p.lines.length < 2 ^ 63) :
    ∃ o w site, runOn (runStep tool (.probe p)) v = (.ok (), w) ∧ o.kind = .error ∧
      w.reports = v.reports.push (.failure p.description site o p.lines) ∧
      p.Blames (BuildText.lineCount start) line o site := by
  obtain ⟨tree, t, htree, alike, ran⟩ := Session.run_probe_left readable spoken.leaves
  obtain ⟨o, outcome, kind, offset⟩ :=
    exists_outcome_of_locatedAt quiet first located (BuildText.lineCount start)
  rw [spoken.result _ htree, outcome] at ran
  -- the request to stop is read after the run of the tool, and there is none
  have silent : t.interrupted = false := by
    rw [alike.interrupted]
    show (v.session.interrupted || _) = _
    rw [going, Bool.false_or]
    exact spoken.silent _ htree
  have failed : p.reportOf o
      = .failure p.description (p.site (Outcome.offsetOf line (BuildText.lineCount start))) o
        p.lines := by
    rw [Probe.reportOf, if_neg (by simp [kind]), if_neg (by simp [Outcome.passed, offset]), offset]
    rfl
  refine ⟨o, judged p o { v with session := t }, _, ?_, kind, congrArg v.reports.push failed,
    p.blames small located.lt offset⟩
  rw [run_probe_judged ran silent, run_judge_eq]

/-- **A failure blames the line that the tool named.** Take a build file without an open line and
any probe, whose lines may have newlines and markers in them.

* Whatever the tool does, it is shown the lines of the build file, one physical line for each line
  of the probe and the sentinel.
* If the first line of its output that decides is an error at a line of the build file, the probe
  fails. A probed line has its index as offset, is quoted and is named after the part of the probe
  that it stands in; a line in front of them has a negative offset and counts as setup; and no other
  line than a probed one is quoted.

Offsets have 64 bits, which is enough for the fewer than `2 ^ 63` lines of a text in memory. -/
theorem probe_blames_named_line (v : Verdicts) {start : String}
    (readable : textOf v.session.tree = .ok start) (complete : Complete start) (p : Probe) :
    let text := shown v.session.location start p.lines
    let before := BuildText.lineCount start
    (∀ tool, (runOn (runStep tool (.probe p)) v).2.session.seen = v.session.seen ++ [.ok text]) ∧
    (physicalLines text).length = before + p.lines.length + 1 ∧
    (∀ i, (h : i < p.lines.length) → (physicalLines text)[before + i]?
      = some (BuildText.escape v.session.location p.lines[i] ++ "\n")) ∧
    (physicalLines text).getLast? = some (sentinel ++ "\n") ∧
    ∀ (tool : Tool) output, v.session.interrupted = false →
      tool.Says v.session.calls.size text output (p.lines.length + 1) → output.stderr = "" →
      ∀ deciding line, ((physicalLines output.stdout).map Text.withoutLineEnd).find?
          (Diagnosis.decides v.session.settings.warningsAsErrors) = some deciding →
        Diagnosis.LocatedAt deciding line → before + p.lines.length < 2 ^ 63 →
        ∃ o w site, runOn (runStep tool (.probe p)) v = (.ok (), w) ∧ o.kind = .error ∧
          w.reports = v.reports.push (.failure p.description site o p.lines) ∧
          p.Blames before line o site := by
  intro text before
  obtain ⟨length, lines, last⟩ := lines_shown v.session.location complete p.lines
  refine ⟨fun tool => seen_of_probe readable tool p, length, lines, last, ?_⟩
  intro tool output going spoken quiet deciding line first located small
  exact run_probe_located readable going spoken quiet first located small

/-- A tool that says what it is told and leaves the files alone. -/
def sayingTool (stdout : String) : Tool := fun _ call =>
  { result := .ok { stdout }, project := call.project }

theorem message_without_arguments_is_blamed :
    let v : Verdicts := { session := oneLineProject, names := .ofSeed 0 }
    let p : Probe := { description := "message", call := ["message()"] }
    let tool := sayingTool "meson.build:2:0: ERROR: no arguments\n"
    textOf oneLineProject.tree = .ok "x = 1\n" ∧ Complete "x = 1\n" ∧
      ∃ o w site, runOn (runStep tool (.probe p)) v = (.ok (), w) ∧
        w.reports = #[.failure "message" site o ["message()"]] ∧ site = .call ∧
        o.offset = some 0 ∧
        Report.failureText "message" site o ["message()"]
          = "message: " ++ o.message ++ " (at `message()`)" := by
  intro v p tool
  have complete : Complete "x = 1\n" := by decide
  have lines : BuildText.lineCount "x = 1\n" = 1 := by decide
  obtain ⟨-, length, -, -, blames⟩ :=
    probe_blames_named_line v textOf_oneLineProject complete p
  have spoken : tool.Says 0 (shown v.session.location "x = 1\n" p.lines)
      { stdout := "meson.build:2:0: ERROR: no arguments\n" } 2 := by
    refine ⟨fun _ _ => rfl, fun _ _ => rfl, fun call seen => ⟨_, seen, ?_⟩⟩
    rw [BuildText.lineCount, length, lines]
    decide
  have column : Diagnosis.Digits "0".toList :=
    ⟨by decide, List.all_eq_true.1 (by decide : "0".toList.all Text.isDecimalDigit = true)⟩
  have located : Diagnosis.LocatedAt "meson.build:2:0: ERROR: no arguments" 2 :=
    ⟨[], "2".toList, "0".toList, "no arguments".toList, by decide, List.forall_mem_nil _,
      by decide, column⟩
  obtain ⟨o, w, site, ran, kind, reports, blames⟩ := blames tool _ rfl spoken rfl
    "meson.build:2:0: ERROR: no arguments" 2 (by decide) located (by rw [lines]; decide)
  rw [lines] at blames
  obtain ⟨offset, -, quoted, -, call, -⟩ := blames.probed 0 (by decide) rfl
  obtain rfl : site = .call := call (by decide) (by decide)
  have complaint : Report.complaint .call o = o.message := by simp only [Report.complaint, kind]
  rw [complaint] at quoted
  exact ⟨textOf_oneLineProject, complete, o, w, .call, ran, reports, rfl, offset, quoted⟩

end Audit

end SignatureAudit
