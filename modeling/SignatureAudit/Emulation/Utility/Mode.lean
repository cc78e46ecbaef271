import SignatureAudit.Emulation.Utility.Place

/-!
# Modes

The program that says which files can be run. Nothing else is known of the mode of a file.
-/

namespace SignatureAudit.Emulation.Utility

open Shell (Running Machine Utility)
open Shell.Running (print printLine)

/-- What a part of a mode says about whether a file is a program: nothing, or how the answer follows
from the present one. -/
def modePart? (text : String) : Option (Bool → Bool) :=
  let rest := text.toList.dropWhile fun c => ['u', 'g', 'o', 'a'].contains c
  match rest with
  | '+' :: letters =>
    if letters.all "rwxXst".toList.contains then
      some fun runnable => runnable || letters.contains 'x'
    else none
  | '-' :: letters =>
    if letters.all "rwxXst".toList.contains then
      some fun runnable => runnable && !letters.contains 'x'
    else none
  | '=' :: letters =>
    if letters.all "rwxXst".toList.contains then some fun _ => letters.contains 'x' else none
  | _ => none

/-- What a mode says about whether a file is a program. -/
def mode? (text : String) : Option (Bool → Bool) :=
  let cs := text.toList
  if !cs.isEmpty && cs.length ≤ 5 && cs.all fun c => '0' ≤ c && c ≤ '7' then
    let n := cs.foldl (fun n c => 8 * n + (c.toNat - 48)) 0
    some fun _ => n % 2 = 1 || n / 8 % 2 = 1 || n / 64 % 2 = 1
  else do
    let parts ← (text.splitOn ",").mapM modePart?
    some fun runnable => parts.foldl (fun r part => part r) runnable

mutual

/-- A node in which files are or are not programs. -/
def remode (f : Bool → Bool) : FileNode → FileNode
  | .file bytes runnable => .file bytes (f runnable)
  | .directory entries => .directory (remodeAll f entries)

/-- Entries in which files are or are not programs. -/
def remodeAll (f : Bool → Bool) : List (String × FileNode) → List (String × FileNode)
  | [] => []
  | (name, node) :: rest => (name, remode f node) :: remodeAll f rest

end

/-- Says which files are programs. -/
def chmod : Utility := fun _ args => do
  let recursive := args.head? = some "-R" || args.head? = some "--recursive"
  let operands := if recursive then args.drop 1 else args
  match operands with
  | [] => misuse "missing operand"
  | [mode] => misuse ("missing operand after " ++ quoted mode)
  | mode :: paths =>
    match mode? mode with
    | none => misuse ("invalid mode: " ++ quoted mode)
    | some f =>
      forAll paths fun text => do
        let m ← get
        match m.place text with
        | .error fault => refused ("cannot access " ++ quoted text ++ ": " ++ fault.reason)
        | .ok place =>
          match m.files.get? place with
          | some (.file bytes runnable) => do
            putAt place (.file bytes (f runnable))
            pure true
          | some node => do
            if recursive then putAt place (remode f node)
            pure true
          | none => pure true

end SignatureAudit.Emulation.Utility
