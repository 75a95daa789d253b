import Tandem.Text.Octet

/-!
# Signals

Signals by their numbers: what they are called, what is said of a process that one of them ended,
and which of them do nothing to a process that makes no arrangements.
-/

namespace Tandem.Host.Signal

/-- The signal of a process that asked for an impossible number. -/
def arithmetic : Nat := 8

/-- The signal that nothing can stop. -/
def kill : Nat := 9

/-- The signal for writing to a pipe that nobody reads. -/
def pipe : Nat := 13

/-- The signal of a user who wants an end. -/
def interrupt : Nat := 2

/-- The signal of a process that went astray. -/
def segmentation : Nat := 11

/-- The signal that asks for an end. -/
def terminate : Nat := 15

/-- The greatest number of a signal. -/
def greatest : Nat := 64

/-- The signals that have a name, by number. -/
def named : List (Nat × String × String) :=
  [(1, "HUP", "Hangup"), (2, "INT", "Interrupt"), (3, "QUIT", "Quit"),
    (4, "ILL", "Illegal instruction"), (5, "TRAP", "Trace/breakpoint trap"), (6, "ABRT", "Aborted"),
    (7, "BUS", "Bus error"), (8, "FPE", "Floating point exception"), (9, "KILL", "Killed"),
    (10, "USR1", "User defined signal 1"), (11, "SEGV", "Segmentation fault"),
    (12, "USR2", "User defined signal 2"), (13, "PIPE", "Broken pipe"), (14, "ALRM", "Alarm clock"),
    (15, "TERM", "Terminated"), (16, "16", "Stack fault"), (17, "CHLD", "Child exited"),
    (18, "CONT", "Continued"), (19, "STOP", "Stopped (signal)"), (20, "TSTP", "Stopped"),
    (21, "TTIN", "Stopped (tty input)"), (22, "TTOU", "Stopped (tty output)"),
    (23, "URG", "Urgent I/O condition"), (24, "XCPU", "CPU time limit exceeded"),
    (25, "XFSZ", "File size limit exceeded"), (26, "VTALRM", "Virtual timer expired"),
    (27, "PROF", "Profiling timer expired"), (28, "WINCH", "Window changed"),
    (29, "IO", "I/O possible"), (30, "PWR", "Power failure"), (31, "SYS", "Bad system call")]

/-- The first and the last signal that programs may use as they like. -/
def free : Nat × Nat := (34, 64)

/-- What a signal is called. -/
def name (n : Nat) : String :=
  match named.lookup n with
  | some (name, _) => name
  | none =>
    if n < free.1 then Nat.repr n
    else if n = free.1 then "RTMIN"
    else if n ≤ free.1 + 15 then "RTMIN+" ++ Nat.repr (n - free.1)
    else if n < free.2 then "RTMAX-" ++ Nat.repr (free.2 - n)
    else "RTMAX"

/-- What is said of a process that a signal ended. -/
def text (n : Nat) : String :=
  match named.lookup n with
  | some (_, text) => text
  | none =>
    if n < free.1 then "Unknown signal " ++ Nat.repr n
    else "Real-time signal " ++ Nat.repr (n - free.1)

/-- The signal of a name, in upper or lower case. -/
def ofName? (cs : Octets) : Option Nat :=
  let upper := cs.map Char.toUpper
  (List.range (greatest + 1)).tail.find? fun n =>
    (name n).toList == upper && !(name n).toList.all Char.isDigit

/-- The signal does nothing to a process that makes no arrangements. Signals that stop a process
until another one wakes it are counted here. -/
def isHarmless (n : Nat) : Bool :=
  n == 0 || n == 17 || n == 18 || n == 23 || n == 28 || (19 ≤ n && n ≤ 22)

end Tandem.Host.Signal
