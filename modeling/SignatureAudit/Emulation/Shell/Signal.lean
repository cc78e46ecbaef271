/-!
# Signals

A signal has a number, a name, and perhaps words that tell about a program that it has ended.
-/

namespace SignatureAudit.Emulation.Shell.Signal

/-- The names of signals with their numbers. -/
def names : List (String × Nat) :=
  [("HUP", 1), ("INT", 2), ("QUIT", 3), ("ILL", 4), ("TRAP", 5), ("ABRT", 6), ("BUS", 7),
   ("FPE", 8),
   ("KILL", 9), ("USR1", 10), ("SEGV", 11), ("USR2", 12), ("PIPE", 13), ("ALRM", 14), ("TERM", 15),
   ("STKFLT", 16), ("CHLD", 17), ("CONT", 18), ("STOP", 19), ("TSTP", 20), ("TTIN", 21),
   ("TTOU", 22), ("URG", 23), ("XCPU", 24), ("XFSZ", 25), ("VTALRM", 26), ("PROF", 27),
   ("WINCH", 28), ("IO", 29), ("PWR", 30), ("SYS", 31)]

/-- The number of a signal that is given by its name or its number. -/
def number? (text : String) : Option Nat :=
  match text.toNat? with
  | some n => if n ≤ 64 then some n else none
  | none => names.lookup text.toUpper

/-- The name of a signal. -/
def name? (number : Nat) : Option String := (names.find? (·.2 = number)).map (·.1)

/-- The number of the last signal. -/
def highest : Nat := 64

/-- What stands for a signal in a list: its name, where it has one that is in use. -/
def listed (number : Nat) : String :=
  if number = 16 then "16"
  else if number = 34 then "RTMIN"
  else if 34 < number && number < 50 then "RTMIN+" ++ toString (number - 34)
  else if 50 ≤ number && number < highest then "RTMAX-" ++ toString (highest - number)
  else if number = highest then "RTMAX"
  else (name? number).getD (toString number)

/-- Whether a program that does nothing about a signal is not ended by it. -/
def isHarmless (number : Nat) : Bool := [0, 17, 18, 23, 28].contains number

/-- Whether a signal stops a program for good, unless another one follows. -/
def isStop (number : Nat) : Bool := [19, 20, 21, 22].contains number

/-- What is said about a program that a signal has ended. -/
def farewell? (number : Nat) : Option String :=
  match number with
  | 1 => some "Hangup"
  | 3 => some "Quit"
  | 4 => some "Illegal instruction"
  | 5 => some "Trace/breakpoint trap"
  | 6 => some "Aborted"
  | 7 => some "Bus error"
  | 8 => some "Floating point exception"
  | 9 => some "Killed"
  | 10 => some "User defined signal 1"
  | 11 => some "Segmentation fault"
  | 12 => some "User defined signal 2"
  | 14 => some "Alarm clock"
  | 15 => some "Terminated"
  | 16 => some "Stack fault"
  | 24 => some "CPU time limit exceeded"
  | 25 => some "File size limit exceeded"
  | 26 => some "Virtual timer expired"
  | 27 => some "Profiling timer expired"
  | 29 => some "I/O possible"
  | 30 => some "Power failure"
  | 31 => some "Bad system call"
  | _ => none

/-- The outcome of a program that a signal has ended. -/
def outcome (number : Nat) : Nat := 128 + number

end SignatureAudit.Emulation.Shell.Signal
