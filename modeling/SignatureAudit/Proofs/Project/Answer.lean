import SignatureAudit.Proofs.Project.Session

/-!
# Probes by any tool

Nothing is asked of the tool here: it may rewrite or remove the build file while it runs. A probe
still shows it the candidate lines behind the text of the build file, and answers with the outcome
that it reads off that one run, unless the lines cannot be taken away again (`run_probe_eq`).
-/

namespace SignatureAudit.Session

open Project (Fault BuildText.append BuildText.lineCount BuildText.popLines)

/-- The sessions differ at most in the files and in what is saved. -/
structure Alike (s t : Session) : Prop where
  location : t.location = s.location
  settings : t.settings = s.settings
  calls : t.calls = s.calls
  interrupted : t.interrupted = s.interrupted

namespace Alike

theorem refl (s : Session) : Alike s s := ⟨rfl, rfl, rfl, rfl⟩

theorem trans {s t u : Session} (h : Alike s t) (h' : Alike t u) : Alike s u :=
  ⟨h'.location.trans h.location, h'.settings.trans h.settings, h'.calls.trans h.calls,
    h'.interrupted.trans h.interrupted⟩

end Alike

/-! ## Work on files -/

theorem alike_content (s : Session) : Alike s (runOn content s).2 := by
  rw [run_content]
  exact .refl s

theorem alike_write (text : String) (s : Session) : Alike s (runOn (write text) s).2 := by
  refine runOn_bind_keeps (p := Alike s) (.refl s) fun _ t ht => ?_
  refine runOn_bind_keeps (p := Alike s) (by rw [run_ofExcept]; exact ht) fun _ u hu => ?_
  exact ⟨hu.location, hu.settings, hu.calls, hu.interrupted⟩

theorem alike_edit (f : String → Except Fault String) (s : Session) :
    Alike s (runOn (edit f) s).2 := by
  refine runOn_bind_keeps (p := Alike s) (alike_content s) fun _ t ht => ?_
  refine runOn_bind_keeps (p := Alike s) (by rw [run_ofExcept]; exact ht) fun text u hu => ?_
  exact hu.trans (alike_write text u)

theorem alike_snapshot (s : Session) : Alike s (runOn snapshot s).2 :=
  runOn_bind_keeps (p := Alike s) (alike_content s) fun _ _ h =>
    ⟨h.location, h.settings, h.calls, h.interrupted⟩

theorem alike_restore (s : Session) : Alike s (runOn restore s).2 := by
  rw [restore, runOn_bind_ok (runOn_get s)]
  cases s.saved with
  | none => exact .refl s
  | some text =>
    refine runOn_bind_keeps (p := Alike s) ⟨rfl, rfl, rfl, rfl⟩ fun _ t ht => ?_
    exact ht.trans (alike_write text t)

/-! ## Probes -/

section

variable {s : Session} {text : String}

/-- A probe runs the tool on the text with the lines and the sentinel behind it, takes as many lines
away again from whatever the tool left, and answers with what it reads off the run. -/
theorem run_probe_eq (readable : textOf s.tree = .ok text) (tool : Tool) (lines : List String) :
    ∃ tree, textOf tree = .ok (shown s.location text lines) ∧
      let call := s.probeCall tree
      let reply := tool s.calls.size call
      let popped := runOn (popLines (lines.length + 1)) (s.answered call reply)
      runOn (probe tool lines) s =
        (popped.1 >>= fun _ =>
          outcomeOf s.settings.warningsAsErrors (BuildText.lineCount text) reply.result,
          popped.2) := by
  obtain ⟨tree, htree, appended⟩ := run_appendLines readable (lines ++ [sentinel])
  rw [append_sentinel] at htree
  refine ⟨tree, htree, ?_⟩
  intro call reply popped
  have invoked : runOn (invoke tool s.settings.reconfigureArgs s.buildDirectory) (s.onTree tree)
      = (.ok reply.result, s.answered call reply) := rfl
  rw [probe, runOn_bind_ok (run_lineCount readable)]
  simp only
  rw [runOn_bind_ok appended, runOn_bind_ok (runOn_get _), settings_onTree, buildDirectory_onTree,
    runOn_bind_ok invoked, List.length_append, List.length_singleton]
  -- if the lines cannot be taken away, that is the answer, whatever the tool reported
  cases taken : runOn (popLines (lines.length + 1)) (s.answered call reply) with
  | mk answer t =>
    have ended : popped = (answer, t) := taken
    rw [ended]
    cases answer with
    | error fault => exact runOn_bind_error taken
    | ok _ =>
      rw [runOn_bind_ok taken]
      cases reply.result with
      | ok output => rfl
      | error failure => cases failure <;> rfl

/-- A probe that answers has read its answer off one run of the tool, behind which only files
change. -/
theorem exists_reply_of_probe {tool : Tool} {lines : List String} {o : Outcome} {t : Session}
    (ran : runOn (probe tool lines) s = (.ok o, t)) :
    ∃ text tree, textOf s.tree = .ok text ∧ textOf tree = .ok (shown s.location text lines) ∧
      let call := s.probeCall tree
      let reply := tool s.calls.size call
      outcomeOf s.settings.warningsAsErrors (BuildText.lineCount text) reply.result = .ok o ∧
        Alike (s.answered call reply) t := by
  cases readable : textOf s.tree with
  | error fault =>
    rw [run_probe_unreadable readable] at ran
    cases ran
  | ok text =>
    obtain ⟨tree, htree, answer⟩ := run_probe_eq readable tool lines
    rw [ran] at answer
    obtain ⟨answered, left⟩ := Prod.ext_iff.1 answer
    obtain ⟨_, -, outcome⟩ := exists_of_bind_eq_ok answered.symm
    refine ⟨text, tree, rfl, htree, outcome, ?_⟩
    rw [show t = _ from left]
    exact alike_edit _ _

/-- A probe answers if the tool leaves enough lines to take away. -/
theorem run_probe_left (readable : textOf s.tree = .ok text) {tool : Tool} {lines : List String}
    (leaves : ∀ call, textOf call.project = .ok (shown s.location text lines) →
      ∃ left, textOf (tool s.calls.size call).project = .ok left ∧
        lines.length + 1 ≤ BuildText.lineCount left) :
    ∃ tree t, textOf tree = .ok (shown s.location text lines) ∧
      let call := s.probeCall tree
      let reply := tool s.calls.size call
      Alike (s.answered call reply) t ∧
        runOn (probe tool lines) s =
          (outcomeOf s.settings.warningsAsErrors (BuildText.lineCount text) reply.result, t) := by
  obtain ⟨tree, htree, ran⟩ := run_probe_eq readable tool lines
  obtain ⟨left, hleft, room⟩ := leaves (s.probeCall tree) htree
  let after := s.answered (s.probeCall tree) (tool s.calls.size (s.probeCall tree))
  have popped : BuildText.popLines left (lines.length + 1) = .ok _ := if_pos room
  obtain ⟨blank, -, taken⟩ := run_edit_ok (s := after)
    (f := (BuildText.popLines · (lines.length + 1))) hleft popped
  have taken : runOn (popLines (lines.length + 1)) after = (.ok (), after.onTree blank) := taken
  refine ⟨tree, after.onTree blank, htree, ⟨rfl, rfl, rfl, rfl⟩, ?_⟩
  rw [ran, taken]
  rfl

end

end SignatureAudit.Session
