import SignatureAudit.Diagnosis.Basic

/-!
# Outcomes of probes

The outcome of a probe says what is wrong and where, relative to the first probed line. Line numbers
are read as unsigned and offsets computed as signed 64-bit numbers.
-/

namespace SignatureAudit

/-- The outcome of one probe. -/
structure Outcome where
  /-- The line that is at fault, counted from the first probed one; none if the probe passed. -/
  offset : Option Int
  message : String
  kind : Diagnosis.Kind
  stdout : String := ""
  stderr : String := ""
  deriving DecidableEq, Repr

namespace Outcome

/-- Whether no line is at fault. -/
def passed (o : Outcome) : Bool := o.offset.isNone

/-- The position of a line, counted from one, relative to the first line behind `before` lines. -/
def offsetOf (line before : Nat) : Int := (Int64.ofNat line - Int64.ofNat before - 1).toInt

/-- The outcome that a diagnosis means for lines probed behind `before` others. -/
def ofDiagnosis (before : Nat) (d : Diagnosis) (stdout stderr : String) : Outcome where
  offset := (d.line? before).map (offsetOf · before)
  message := d.message
  kind := d.kind
  stdout := stdout
  stderr := stderr

end Outcome

end SignatureAudit
