import JobControl.Job.Basic

/-!
# Outcomes

What launching a line, running a builtin and executing a line come to.

* `LaunchOutcome`: the line ran to completion, went to the background, or stopped; its status
  is the last stage's, and 0 for the background.
* `BuiltinOutcome`: a builtin lets the shell go on with a status, or asks it to exit.
* `LineOutcome`: the shell goes on, or exits with a code.
-/

namespace JobControl

/-- How a launched line ended, as far as the shell waited for it. -/
inductive LaunchOutcome
  | completed (status : Int32)
  | background (id : Option JobId) (pgid : Pid)
  | stopped (id : Option JobId) (status : Int32)
  deriving DecidableEq, Repr

/-- The status a launched line leaves: 0 for a line sent to the background. -/
def LaunchOutcome.status : LaunchOutcome → Int32
  | .completed status => status
  | .background _ _ => 0
  | .stopped _ status => status

/-- What a builtin asks of the shell. -/
inductive BuiltinOutcome
  | proceed (status : Int32)
  | exit (code : Int32)
  deriving DecidableEq, Repr

/-- What executing a line asks of the shell's caller. -/
inductive LineOutcome
  | proceed
  | exit (code : Int32)
  deriving DecidableEq, Repr

end JobControl
