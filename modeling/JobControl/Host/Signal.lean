/-!
# Signals

The signals of the host by number, with their names (without the `SIG` prefix) and the text
that describes them. Numbers 34 to 64 are the real-time signals `RTMIN`, `RTMIN+1`, ...,
`RTMAX`.

* `Signal.name?` and `Signal.ofName?` translate between numbers and names; a name may carry
  the `SIG` prefix and any case;
* `Signal.ofText?` reads a number or a name;
* `Signal.trapName?` and `Signal.ofTrapOperand?` are the names the shell's `trap` uses: no
  `SIG` prefix, `EXIT` for 0, and real-time names counted from both ends.
-/

namespace JobControl.Host

namespace Signal

/-- The named signals: number, name and description. -/
def table : List (Nat × String × String) :=
  [(1, "HUP", "Hangup"), (2, "INT", "Interrupt"), (3, "QUIT", "Quit"),
    (4, "ILL", "Illegal instruction"), (5, "TRAP", "Trace/breakpoint trap"),
    (6, "ABRT", "Aborted"), (7, "BUS", "Bus error"), (8, "FPE", "Floating point exception"),
    (9, "KILL", "Killed"), (10, "USR1", "User defined signal 1"),
    (11, "SEGV", "Segmentation fault"), (12, "USR2", "User defined signal 2"),
    (13, "PIPE", "Broken pipe"), (14, "ALRM", "Alarm clock"), (15, "TERM", "Terminated"),
    (16, "STKFLT", "Stack fault"), (17, "CHLD", "Child exited"), (18, "CONT", "Continued"),
    (19, "STOP", "Stopped (signal)"), (20, "TSTP", "Stopped"), (21, "TTIN", "Stopped (tty input)"),
    (22, "TTOU", "Stopped (tty output)"), (23, "URG", "Urgent I/O condition"),
    (24, "XCPU", "CPU time limit exceeded"), (25, "XFSZ", "File size limit exceeded"),
    (26, "VTALRM", "Virtual timer expired"), (27, "PROF", "Profiling timer expired"),
    (28, "WINCH", "Window changed"), (29, "IO", "I/O possible"), (30, "PWR", "Power failure"),
    (31, "SYS", "Bad system call")]

/-- The highest signal number. -/
def max : Nat := 64

/-- The name of a signal number. -/
def name? (n : Nat) : Option String :=
  match table.find? (·.1 = n) with
  | some (_, name, _) => some name
  | none =>
    if n = 34 then some "RTMIN"
    else if n = 64 then some "RTMAX"
    else if 34 < n && n < 49 then some ("RTMIN+" ++ toString (n - 34))
    else if 49 ≤ n && n < 64 then some ("RTMAX-" ++ toString (64 - n))
    else none

/-- The text that describes a signal number. -/
def description (n : Nat) : String :=
  match table.find? (·.1 = n) with
  | some (_, _, d) => d
  | none => if 34 ≤ n && n ≤ 64 then "Real-time signal " ++ toString (n - 34) else "Unknown signal " ++ toString n

/-- The number of a signal name, with or without `SIG`, in any case. -/
def ofName? (s : String) : Option Nat :=
  let up := s.toUpper
  let bare := if up.startsWith "SIG" then (up.drop 3).toString else up
  ((List.range (max + 1)).find? fun n => name? n == some bare)

/-- The number a text names: a number up to `max`, or a name. -/
def ofText? (s : String) : Option Nat :=
  match s.toNat? with
  | some n => if n ≤ max then some n else none
  | none => ofName? s

/-- The name `trap` gives a signal number: `EXIT` for 0, the name of a signal other than
STKFLT, and for the real-time signals `RTMIN`, `RTMIN+1` up to `RTMIN+15`, then `RTMAX-14` up
to `RTMAX`. -/
def trapName? (n : Nat) : Option String :=
  if n = 0 then some "EXIT"
  else if n = 16 then none
  else if 34 < n && n < 50 then some ("RTMIN+" ++ toString (n - 34))
  else if 50 ≤ n && n < 64 then some ("RTMAX-" ++ toString (64 - n))
  else name? n

/-- The number a `trap` operand of digits stands for: read as a C `int` from a `long`, so a
number past the largest `long` stays at it and the rest wraps to 32 bits; only 0 to `max` name
signals. -/
def trapNumber? (s : String) : Option Nat :=
  if s.isEmpty || !s.all Char.isDigit then none
  else
    let n := min s.toNat! (Nat.pow 2 63 - 1) % Nat.pow 2 32
    if n ≤ max then some n else none

/-- The signal a `trap` operand names: a number, or a trap name in any case. -/
def ofTrapOperand? (s : String) : Option Nat :=
  if !s.isEmpty && s.all Char.isDigit then trapNumber? s
  else (List.range (max + 1)).find? fun n => (trapName? n).map (·.toUpper) == some s.toUpper

end Signal

end JobControl.Host
