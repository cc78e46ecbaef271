import SignatureAudit.FreshName
import SignatureAudit.Text.Search

/-!
# Expanding templates

A template is literal source text with two markers. Each occurrence of the fresh-name marker
becomes a quoted name of its own, drawn from left to right; the directory marker becomes the quoted
project directory, if one is known.
-/

namespace SignatureAudit.Template

/-- Stands for a fresh quoted name. -/
def freshMarker : String := "$RANDOM_STRING$"

/-- Stands for the quoted project directory. -/
def directoryMarker : String := "$BUILDFILE_DIR$"

/-- A text in single quotes. -/
def quoted (s : String) : String := "'" ++ s ++ "'"

/-- Joins pieces with a fresh quoted name between two. -/
def joinFresh : List String → Naming String
  | [] => pure ""
  | [last] => pure last
  | piece :: next :: rest => do
    let name ← Naming.draw
    let later ← joinFresh (next :: rest)
    pure (piece ++ quoted name ++ later)

/-- Puts the quoted directory in the place of its marker. -/
def placeDirectory (directory text : String) : String :=
  Text.replaceAll text directoryMarker (quoted directory)

/-- Expands both markers; without a known directory its marker stays. -/
def expand (directory : Option String) (text : String) : Naming String := do
  let named ← joinFresh (Text.pieces freshMarker text)
  match directory with
  | some directory => pure (placeDirectory directory named)
  | none => pure named

end SignatureAudit.Template
