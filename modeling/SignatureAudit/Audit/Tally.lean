/-!
# Tallies

How many checks succeeded and how many failed.
-/

namespace SignatureAudit

/-- Numbers of successful and failed checks. -/
structure Tally where
  successes : Nat := 0
  failures : Nat := 0
  deriving DecidableEq, Repr

namespace Tally

/-- Counts one more check. -/
def record (t : Tally) (passed : Bool) : Tally :=
  if passed then { t with successes := t.successes + 1 }
  else { t with failures := t.failures + 1 }

/-- The number of checks. -/
def total (t : Tally) : Nat := t.successes + t.failures

/-- The tally in one sentence. -/
def summary (t : Tally) : String :=
  "Out of " ++ toString t.total ++ " total checks, " ++ toString t.successes
    ++ " were successful and " ++ toString t.failures ++ " were failures."

end Tally

end SignatureAudit
