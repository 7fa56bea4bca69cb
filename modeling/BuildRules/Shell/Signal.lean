import BuildRules.Text.Octets

/-! Signals: their numbers and names, and what is said of a process that one has ended. -/
namespace BuildRules.Shell.Signal

def hangup : Nat := 1

def interrupt : Nat := 2

def kill : Nat := 9

def pipe : Nat := 13

def terminate : Nat := 15

/-- The names of the signals that have one, by number. Zero stands for the end of a shell. -/
def names : List (Nat × Octets) :=
  [(0, "EXIT"), (1, "HUP"), (2, "INT"), (3, "QUIT"), (4, "ILL"), (5, "TRAP"), (6, "ABRT"),
    (7, "BUS"), (8, "FPE"), (9, "KILL"), (10, "USR1"), (11, "SEGV"), (12, "USR2"), (13, "PIPE"),
    (14, "ALRM"), (15, "TERM"), (17, "CHLD"), (18, "CONT"), (19, "STOP"), (20, "TSTP"),
    (21, "TTIN"), (22, "TTOU"), (23, "URG"), (24, "XCPU"), (25, "XFSZ"), (26, "VTALRM"),
    (27, "PROF"), (28, "WINCH"), (29, "IO"), (30, "PWR"), (31, "SYS"), (34, "RTMIN"),
    (64, "RTMAX")].map fun (n, name) => (n, name.toList)

/-- One more than the greatest number. -/
def count : Nat := 65

/-- The name of a signal. Those between the two that bound a range are named from the nearer. -/
def name (n : Nat) : Octets :=
  match names.lookup n with
  | some name => name
  | none =>
    if 34 < n && n < 50 then "RTMIN+".toList ++ Text.ofNat (n - 34)
    else if 50 ≤ n && n < 64 then "RTMAX-".toList ++ Text.ofNat (64 - n)
    else Text.ofNat n

/-- The signal with a name or a number. Capital letters do not matter. -/
def ofText? (text : Octets) : Option Nat :=
  if !text.isEmpty && text.all Char.isDigit then
    let n := text.foldl (fun n c => n * 10 + (c.toNat - '0'.toNat)) 0
    if n < count then some n else none
  else (List.range count).find? fun n => name n == text.map Char.toUpper

/-- Signals that do nothing to a process that does not ask for them. -/
def isHarmless (n : Nat) : Bool := [0, 17, 18, 23, 28].contains n

/-- What a signal has done to the process that it has ended. -/
def effect (n : Nat) : Octets :=
  match n with
  | 1 => "Hangup".toList
  | 2 => "Interrupt".toList
  | 3 => "Quit".toList
  | 4 => "Illegal instruction".toList
  | 5 => "Trace/breakpoint trap".toList
  | 6 => "Aborted".toList
  | 7 => "Bus error".toList
  | 8 => "Floating point exception".toList
  | 9 => "Killed".toList
  | 10 => "User defined signal 1".toList
  | 11 => "Segmentation fault".toList
  | 12 => "User defined signal 2".toList
  | 13 => "Broken pipe".toList
  | 14 => "Alarm clock".toList
  | 15 => "Terminated".toList
  | 16 => "Stack fault".toList
  | 24 => "CPU time limit exceeded".toList
  | 25 => "File size limit exceeded".toList
  | 26 => "Virtual timer expired".toList
  | 27 => "Profiling timer expired".toList
  | 29 => "I/O possible".toList
  | 30 => "Power failure".toList
  | 31 => "Bad system call".toList
  | n => if 34 ≤ n then "Real-time signal ".toList ++ Text.ofNat (n - 34) else Text.ofNat n

/-- Whether a shell keeps quiet about a process that a signal has ended. -/
def isQuiet (n : Nat) : Bool := n == interrupt || n == pipe

example : ofText? "term".toList = some 15 := by decide
example : name 36 = "RTMIN+2".toList := by decide

end BuildRules.Shell.Signal
