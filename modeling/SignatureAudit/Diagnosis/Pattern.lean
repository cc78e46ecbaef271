import SignatureAudit.Text.Digit

/-!
# Located error lines

The build tool reports an error as `<path>meson.build:<line>:<column>: ERROR: <message>`, where the
path contains no blank and the two numbers are nonempty runs of decimal digits. The first blank of
such a line is the one before `ERROR`, so the place in front of it is read from its end.
-/

namespace SignatureAudit.Diagnosis

/-- What separates the place from the message. -/
def errorMark : List Char := " ERROR: ".toList

/-- The name of the build file. -/
def buildFileName : List Char := "meson.build".toList

/-- Takes a nonempty run of decimal digits off the front of a text, with the colon behind it. -/
def takeNumber? (cs : List Char) : Option (List Char × List Char) :=
  match cs.takeWhile Text.isDecimalDigit, cs.dropWhile Text.isDecimalDigit with
  | d :: ds, ':' :: rest => some (d :: ds, rest)
  | _, _ => none

/-- The line number of a place `<path>meson.build:<line>:<column>:`, as it is written. -/
def placeLine? (place : List Char) : Option (List Char) :=
  match place.reverse with
  | ':' :: rest => do
    let (_, rest) ← takeNumber? rest
    let (line, rest) ← takeNumber? rest
    if buildFileName.reverse.isPrefixOf rest then some line.reverse else none
  | _ => none

/-- The line number, as it is written, and the message of a located error line. -/
def located? (line : List Char) : Option (List Char × List Char) :=
  let rest := line.dropWhile (!Text.isBlank ·)
  if errorMark.isPrefixOf rest then do
    let number ← placeLine? (line.takeWhile (!Text.isBlank ·))
    some (number, rest.drop errorMark.length)
  else none

end SignatureAudit.Diagnosis
