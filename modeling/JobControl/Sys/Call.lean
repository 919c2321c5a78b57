import JobControl.Sys.Errno
import JobControl.Locations
import JobControl.Wait

/-!
# System calls

The shell never touches the system directly: it is a program of the free monad `Sys`, a tree
whose nodes are system calls (`Call`) and whose branches are the possible replies. Running it
takes a responder that answers each call (`Sys.run`); a real system, a simulated one, or any
function a proof chooses.

* `Call`: the requests, with the type of each reply given by `Call.Reply`.
* `Polled` and `Sweep`: what non-blocking waits for any child return, one report after the
  other until one says that nothing is ready.
* `Sys`: the free monad; `Sys.call` issues one request; `Sys.run` answers them in a monad.
-/

namespace JobControl.Sys

/-- An open file of the shell, by its descriptor. -/
abbrev Handle := Nat

/-- Where a spawned program reads or writes: the shell's own stream, or a file the shell holds
(which the spawn takes over and closes in the shell). -/
inductive Stdio
  | inherit
  | handle (h : Handle)
  deriving DecidableEq, Repr

/-- A program to start in a new process. -/
structure SpawnRequest where
  program : String
  argv0 : String
  args : List String
  stdin : Stdio
  stdout : Stdio
  /-- The process group to join; `none` starts a new group led by the new process. -/
  group : Option Pid
  deriving DecidableEq, Repr

/-- One answer of a non-blocking wait for any child. -/
inductive Polled
  | exited (pid : Pid) (code : Int32)
  | signaled (pid : Pid) (signal : Int32)
  | stopped (pid : Pid) (signal : Int32)
  | continued (pid : Pid)
  /-- A wait status the shell has no use for. -/
  | other
  /-- The wait was interrupted and is tried again. -/
  | interrupted
  deriving DecidableEq, Repr

/-- Why a run of non-blocking waits stopped: children exist but none has news, or the wait
failed (with `child` when there are no children at all). -/
inductive SweepEnd
  | stillAlive
  | failed (e : Errno)
  deriving DecidableEq, Repr

/-- The answers of non-blocking waits for any child, until the first that ends the run. -/
structure Sweep where
  reports : List Polled
  ending : SweepEnd
  deriving DecidableEq, Repr

/-- The SIGCONT signal. -/
def sigcont : Nat := 18

/-- A request of the shell to its system. -/
inductive Call
  /-- Whether the path, symbolic links followed, is a regular file with an execute bit. -/
  | isExecutable (path : String)
  /-- Opens a file for reading. -/
  | openRead (path : String)
  /-- Opens a file for writing, creating it with mode 0644, appending or truncating. -/
  | openWrite (path : String) (append : Bool)
  /-- Closes a file the shell holds. -/
  | close (h : Handle)
  /-- Makes a pipe: its read end, then its write end. -/
  | pipe
  /-- Starts a program; fails when it cannot be executed. -/
  | spawn (req : SpawnRequest)
  /-- Waits until the child exits, is killed or stops. -/
  | waitFor (pid : Pid)
  /-- Whether a child has changed state since the last asking; asking clears the mark. -/
  | childSignalPending
  /-- Collects, without blocking, every child state change that is ready. -/
  | sweep
  /-- The process group of a process. -/
  | groupOf (pid : Pid)
  /-- Sends a signal to a process group. -/
  | signalGroup (pgid : Pid) (signal : Nat)
  /-- The working directory. -/
  | currentDir
  /-- Changes the working directory. -/
  | changeDir (path : String)
  /-- The shell's environment variables and its account's home. -/
  | environment

/-- The type of the reply to each call. -/
def Call.Reply : Call → Type
  | .isExecutable _ => Bool
  | .openRead _ => Except IoError Handle
  | .openWrite _ _ => Except IoError Handle
  | .close _ => Unit
  | .pipe => Except Errno (Handle × Handle)
  | .spawn _ => Except IoError Pid
  | .waitFor _ => Except Errno WaitResult
  | .childSignalPending => Bool
  | .sweep => Sweep
  | .groupOf _ => Except Errno Pid
  | .signalGroup _ _ => Except Errno Unit
  | .currentDir => Except IoError String
  | .changeDir _ => Except IoError Unit
  | .environment => Environment

end JobControl.Sys

namespace JobControl

open Sys

/-- A program that talks to its system by calls. -/
inductive Sys (α : Type) where
  | done (a : α)
  | call (c : Call) (k : c.Reply → Sys α)

namespace Sys

/-- Runs `x`, then the program its result chooses. -/
def bind {α β : Type} : Sys α → (α → Sys β) → Sys β
  | .done a, f => f a
  | .call c k, f => .call c fun r => bind (k r) f

instance : Monad Sys where
  pure := Sys.done
  bind := Sys.bind

/-- Issues one call and returns its reply. -/
def ask (c : Call) : Sys c.Reply :=
  .call c Sys.done

/-- Answers every call of the program in a monad `m`. -/
def run {m : Type → Type} [Monad m] (answer : (c : Call) → m c.Reply) {α : Type} :
    Sys α → m α
  | .done a => pure a
  | .call c k => do
    let r ← answer c
    run answer (k r)

@[simp] theorem done_bind {α β : Type} (a : α) (f : α → Sys β) :
    (Sys.done a >>= f) = f a := rfl

@[simp] theorem call_bind {α β : Type} (c : Call) (k : c.Reply → Sys α) (f : α → Sys β) :
    (Sys.call c k >>= f) = Sys.call c fun r => k r >>= f := rfl

theorem run_done {m : Type → Type} [Monad m] (answer : (c : Call) → m c.Reply) {α : Type}
    (a : α) : run answer (Sys.done a) = pure a := rfl

theorem run_call {m : Type → Type} [Monad m] (answer : (c : Call) → m c.Reply) {α : Type}
    (c : Call) (k : c.Reply → Sys α) :
    run answer (Sys.call c k) = answer c >>= fun r => run answer (k r) := rfl

end Sys

end JobControl
