import SignatureAudit.Audit.Coverage

/-!
# The probes that an audit plans

An audit makes one *check* for each type and each function. What a check probes is settled before
the tool is first run: it depends on the fresh names alone, which the stages of a check hand on to
one another and to the next check (`Audit.schedule`).

The checks of the function `project` are the only ones whose probes are shown behind an emptied
build file (`Audit.Check.base`).
-/

namespace SignatureAudit

/-- The probe of a step. -/
def Step.probe? : Step → Option Probe
  | .probe p => some p
  | .checkpoint | .notice _ => none

/-- The probes of a plan, in order. -/
def Plan.probes {α : Type} (p : Plan α) : List Probe := p.steps.filterMap Step.probe?

namespace Stage

/-- The probes of a stage that starts with these fresh names. -/
def probes (stage : Stage) (names : NameSupply) : List Probe := (stage.planning.run names).probes

/-- The names that are still fresh behind a stage. -/
def namesAfter (stage : Stage) (names : NameSupply) : NameSupply :=
  (stage.planning.run names).value.2

/-- The text that the probes of a stage are shown behind. -/
def base (stage : Stage) (start : String) : String := if stage.emptied then "" else start

end Stage

namespace Audit

/-- The names that are still fresh behind some stages. -/
def namesAfter : NameSupply → List Stage → NameSupply
  | names, [] => names
  | names, stage :: rest => namesAfter (stage.namesAfter names) rest

/-- The probes of some stages, each with the text that it is shown behind. -/
def based (start : String) : NameSupply → List Stage → List (String × Probe)
  | _, [] => []
  | names, stage :: rest =>
    (stage.probes names).map (stage.base start, ·) ++ based start (stage.namesAfter names) rest

/-- What a part of an audit is about. -/
inductive Check
  | type (type : TypeInfo)
  | function (function : Callable)

/-- The stages of a check. -/
def Check.stages (a : Audit) : Check → List Stage
  | .type t => [{ planning := a.planType t }]
  | .function f => a.functionStages f

/-- The text that the probes of a check are shown behind, in a build file with the text `start`. -/
def Check.base (start : String) : Check → String
  | .type _ => start
  | .function f => if isProjectCall f.name f.receiver then "" else start

/-- The checks of an audit of some types and functions. -/
def checks (types : List TypeInfo) (functions : List Callable) : List Check :=
  types.map .type ++ functions.map .function

/-- The probes of some checks in their order, each with its check. -/
def schedule (a : Audit) : NameSupply → List Check → List (Check × Probe)
  | _, [] => []
  | names, check :: rest =>
    (based "" names (check.stages a)).map (check, ·.2)
      ++ a.schedule (namesAfter names (check.stages a)) rest

theorem stages_eq (a : Audit) (types : List TypeInfo) (functions : List Callable) :
    a.stages types functions = (checks types functions).flatMap (Check.stages a) := by
  rw [stages, checks, List.flatMap_append, List.flatMap_map, List.flatMap_map, List.map_eq_flatMap]
  rfl

theorem based_append (start : String) (names : NameSupply) (front back : List Stage) :
    based start names (front ++ back)
      = based start names front ++ based start (namesAfter names front) back := by
  induction front generalizing names with
  | nil => rfl
  | cons stage rest ih =>
    rw [List.cons_append, based, ih, based, namesAfter, List.append_assoc]

/-- All probes of a check are shown behind the same text. -/
theorem based_check (a : Audit) (start : String) (names : NameSupply) (check : Check) :
    based start names (check.stages a)
      = (based "" names (check.stages a)).map (check.base start, ·.2) := by
  cases check with
  | type t => simp [Check.stages, Check.base, based, Stage.base]
  | function f =>
    rw [Check.stages, Check.base, functionStages]
    by_cases h : isProjectCall f.name f.receiver
    -- the stage in front of the emptied one has a checkpoint and no probe
    · have front : Stage.probes { planning := Planning.take .checkpoint } names = [] := rfl
      rw [if_pos h, if_pos h]
      simp [based, front, Stage.base]
    · rw [if_neg h, if_neg h]
      simp [based, Stage.base]

/-- The schedule of an audit lists the probes of its stages. -/
theorem based_checks (a : Audit) (start : String) (names : NameSupply) (list : List Check) :
    based start names (list.flatMap (Check.stages a))
      = (a.schedule names list).map fun (check, p) => (check.base start, p) := by
  induction list generalizing names with
  | nil => rfl
  | cons check rest ih =>
    rw [List.flatMap_cons, based_append, based_check, ih, schedule, List.map_append, List.map_map]
    rfl

end Audit

end SignatureAudit
