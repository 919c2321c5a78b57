import JobControl.Config
import JobControl.Sys.Call

/-!
# The shell's state

What a shell keeps from one line to the next: its settings, its job table, whether it has a
registration for the signal that announces child state changes, the directory it was in before
its last `cd`, the status of the last line, and what it has written on its two streams.

* `print`, `notify`: a line on the output stream; a notice of a stopped job on a terminal
  starts on a fresh line.
* `report`: a diagnostic `<shell name>: <message>` on the error stream.
* `complain`: a builtin's diagnostic `<builtin>: <message>` on the error stream.
-/

namespace JobControl

/-- The state of a shell between system calls. -/
structure Shell where
  config : Config
  jobs : Table
  /-- Whether the terminal is interactive. -/
  interactive : Bool
  /-- Whether child state changes are announced by a signal registration; without one, every
  collection of child changes asks the system. -/
  registered : Bool
  prevDir : Option String
  lastStatus : Int32
  out : String
  err : String

namespace Shell

/-- A shell with an empty table, before its first line. -/
def start (config : Config) (interactive registered : Bool) : Shell :=
  ⟨config, .withCapacity config.maxJobs, interactive, registered, none, 0, "", ""⟩

/-- Writes a line on the output stream. -/
def print (sh : Shell) (line : String) : Shell :=
  { sh with out := sh.out ++ line ++ "\n" }

/-- Writes a notice on the output stream. -/
def notify (sh : Shell) (n : Notice) : Shell :=
  let lead := if n.kind = .stopped ∧ sh.interactive then "\n" else ""
  { sh with out := sh.out ++ lead ++ n.render ++ "\n" }

/-- Writes several notices, in order. -/
def notifyAll (sh : Shell) (ns : List Notice) : Shell :=
  ns.foldl notify sh

/-- Writes a diagnostic prefixed with the shell's name. -/
def report (sh : Shell) (msg : String) : Shell :=
  { sh with err := sh.err ++ sh.config.name ++ ": " ++ msg ++ "\n" }

/-- Writes a builtin's diagnostic prefixed with the builtin's name. -/
def complain (sh : Shell) (builtin msg : String) : Shell :=
  { sh with err := sh.err ++ builtin ++ ": " ++ msg ++ "\n" }

/-- Empties both streams, returning what they held. -/
def takeOutput (sh : Shell) : (String × String) × Shell :=
  ((sh.out, sh.err), { sh with out := "", err := "" })

end Shell

end JobControl
