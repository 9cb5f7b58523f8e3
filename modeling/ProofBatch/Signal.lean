/-
Signals: their numbers, their names, and what becomes of a process that gets
one and has made no arrangements for it.
-/

namespace ProofBatch

/-- A signal, by its number. -/
abbrev Signal := Nat

namespace Signal

/-- The signals with their names (without `SIG`) and the words for a process
that one has ended. -/
def table : List (Signal × String × String) :=
  [(1, "HUP", "Hangup"), (2, "INT", "Interrupt"), (3, "QUIT", "Quit"),
   (4, "ILL", "Illegal instruction"), (5, "TRAP", "Trace/breakpoint trap"),
   (6, "ABRT", "Aborted"), (7, "BUS", "Bus error"),
   (8, "FPE", "Floating point exception"), (9, "KILL", "Killed"),
   (10, "USR1", "User defined signal 1"), (11, "SEGV", "Segmentation fault"),
   (12, "USR2", "User defined signal 2"), (13, "PIPE", "Broken pipe"),
   (14, "ALRM", "Alarm clock"), (15, "TERM", "Terminated"),
   (16, "STKFLT", "Stack fault"), (17, "CHLD", "Child exited"),
   (18, "CONT", "Continued"), (19, "STOP", "Stopped (signal)"),
   (20, "TSTP", "Stopped"), (21, "TTIN", "Stopped (tty input)"),
   (22, "TTOU", "Stopped (tty output)"), (23, "URG", "Urgent I/O condition"),
   (24, "XCPU", "CPU time limit exceeded"),
   (25, "XFSZ", "File size limit exceeded"),
   (26, "VTALRM", "Virtual timer expired"),
   (27, "PROF", "Profiling timer expired"), (28, "WINCH", "Window changed"),
   (29, "IO", "I/O possible"), (30, "PWR", "Power failure"),
   (31, "SYS", "Bad system call")]

/-- The name of a signal, without `SIG`. -/
def name? (signal : Signal) : Option String :=
  (table.lookup signal).map (·.1)

/-- The words for a process that a signal has ended. -/
def words (signal : Signal) : String :=
  ((table.lookup signal).map (·.2)).getD s!"Unknown signal {signal}"

/-- The signal with a name. -/
def ofName? (name : String) : Option Signal :=
  (table.find? (·.2.1 = name)).map (·.1)

/-- Whether a process goes on after a signal: those that are ignored, and those
that only stop it, which count as undone at once. -/
def survived (signal : Signal) : Bool :=
  [0, 17, 18, 19, 20, 21, 22, 23, 28].contains signal

end Signal

end ProofBatch
