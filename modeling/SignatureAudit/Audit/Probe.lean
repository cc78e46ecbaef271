/-!
# Probes

A probe has three parts: lines that build the values the call needs, the call under test with its
arguments, and lines that use its result. An offset into the probed lines falls into one of them.
-/

namespace SignatureAudit

/-- The part of a probe that the build tool complained about. -/
inductive Site
  /-- The lines that build the receiver or the value under test. -/
  | setup
  /-- The call itself or the setup of its arguments. -/
  | call
  /-- The lines that use the result. -/
  | returnValue
  deriving DecidableEq, Repr

/-- Lines to be probed together. -/
structure Probe where
  description : String
  setup : List String := []
  call : List String
  usage : List String := []
  deriving DecidableEq, Repr

namespace Probe

/-- All lines in order. -/
def lines (p : Probe) : List String := p.setup ++ p.call ++ p.usage

/-- The part that an offset falls into; offsets in front of the lines count as setup, those behind
them as use of the result. -/
def site (p : Probe) (offset : Int) : Site :=
  if offset < p.setup.length then .setup
  else if offset < p.setup.length + p.call.length then .call
  else .returnValue

end Probe

end SignatureAudit
