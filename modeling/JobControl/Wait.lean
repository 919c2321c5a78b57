import JobControl.Job.Basic

/-!
# How a waited-for process ended

A process reported by a blocking wait has exited with a code, been killed by a signal, or been
stopped by one. Its status is the code, or 128 plus the signal number (in 32-bit arithmetic).
-/

namespace JobControl

/-- The end of a wait for one process. -/
inductive WaitResult
  | exited (code : Int32)
  | signaled (signal : Int32)
  | stopped (signal : Int32)
  deriving DecidableEq, Repr

namespace WaitResult

/-- The status a shell records for the result. -/
def status : WaitResult → Int32
  | .exited code => code
  | .signaled sig => 128 + sig
  | .stopped sig => 128 + sig

/-- Whether the process is stopped rather than gone. -/
def isStopped : WaitResult → Bool
  | .stopped _ => true
  | _ => false

end WaitResult

end JobControl
