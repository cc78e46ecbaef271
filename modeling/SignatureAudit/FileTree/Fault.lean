/-!
# Faults of files

Why something cannot be done with the file at a path.
-/

namespace SignatureAudit

/-- Why something cannot be done with the file at a path. -/
inductive FileFault
  /-- Nothing is there, or a directory on the way is missing. -/
  | missing
  /-- What has to be a directory is a file. -/
  | notDirectory
  | isDirectory
  | present
  | nameTooLong
  | notEmpty
  /-- The text is no path, or the operation makes no sense there. -/
  | invalid
  | notPermitted
  /-- The file is no program. -/
  | notProgram
  /-- The text has a character that no path has. -/
  | nulCharacter
  deriving DecidableEq, Repr

namespace FileFault

/-- The wording of a fault. -/
def reason : FileFault → String
  | .missing => "No such file or directory"
  | .notDirectory => "Not a directory"
  | .isDirectory => "Is a directory"
  | .present => "File exists"
  | .nameTooLong => "File name too long"
  | .notEmpty => "Directory not empty"
  | .invalid => "Invalid argument"
  | .notPermitted => "Permission denied"
  | .notProgram => "Exec format error"
  | .nulCharacter => "file name contained an unexpected NUL byte"

/-- The number by which systems know a fault, if they do. -/
def number? : FileFault → Option Nat
  | .missing => some 2
  | .notDirectory => some 20
  | .isDirectory => some 21
  | .present => some 17
  | .nameTooLong => some 36
  | .notEmpty => some 39
  | .invalid => some 22
  | .notPermitted => some 13
  | .notProgram => some 8
  | .nulCharacter => none

/-- The wording of a fault with its number. -/
def message (f : FileFault) : String :=
  match f.number? with
  | some n => f.reason ++ " (os error " ++ toString n ++ ")"
  | none => f.reason

end FileFault

end SignatureAudit
