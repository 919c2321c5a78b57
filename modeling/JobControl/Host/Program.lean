import JobControl.Sys.Errno
import JobControl.Host.Script.Syntax

/-!
# Programs of the host

A process of the host runs a program of the free monad `Prog`: a tree whose nodes are requests
to the host (`Op`: read, write, open, start a child, wait, signal, sleep, ...) and whose branches
are the replies. A program ends with its exit code, or earlier by the `exit` request, whose
reply type is empty.

`Task` says what a new process runs: a file executed with arguments, or a copy of a running
script continuing with one command (a subshell).

The helpers read a descriptor to its end, write text, and print diagnostics; loops over replies
carry a fuel bound, as the replies come from outside.
-/

namespace JobControl.Host

open Sys

/-- How a path is opened. -/
inductive OpenMode
  | read
  | write (append truncate : Bool)
  | readWrite
  deriving DecidableEq, Repr

/-- What a new process runs. -/
inductive Task
  | exec (path : String) (argv : List String) (env : List (String × String))
  /-- A copy of a script continuing with one command, which first ignores the given signals. -/
  | subshell (body : Script.Cmd) (frame : Script.Frame) (ignoring : List Nat)

/-- How a process takes a signal. -/
inductive Disposition
  | byDefault
  | ignore
  /-- The signal is kept for the program, which asks for the signals that came. -/
  | handle
  deriving DecidableEq, Repr

/-- How a child ended. -/
inductive Ending
  | exited (code : Nat)
  | signaled (signal : Nat)
  deriving DecidableEq, Repr

/-- The status a shell gives an ending: the code, or 128 plus the signal. -/
def Ending.status : Ending → Nat
  | .exited code => code
  | .signaled sig => 128 + sig

/-- The kind of a file. -/
inductive FileKind
  | regular
  | directory
  | symlink
  | device
  | pipe
  deriving DecidableEq, Repr

/-- What `stat` tells about a file: its kind, permission bits and size, the number of its
node (two paths name one file when they lead to one node), whether it belongs to the user,
and when it was last changed (a count of the changes to the tree). -/
structure FileInfo where
  kind : FileKind
  mode : Nat
  size : Nat
  node : Nat
  owned : Bool
  stamp : Nat
  deriving DecidableEq, Repr

/-- Whether the user may read (`4`), write (`2`) or search and execute (`1`) a file: by the
owner's bits of a file of the user, and by the bits for others of any other file. -/
def FileInfo.allows (i : FileInfo) (bit : Nat) : Bool :=
  let bits := if i.owned then i.mode / 64 % 8 else i.mode % 8
  bits / bit % 2 = 1

/-- A request of a process to the host. -/
inductive Op
  | read (fd : Nat) (max : Nat)
  | write (fd : Nat) (data : ByteArray)
  | openFile (path : String) (mode : OpenMode)
  | close (fd : Nat)
  | pipe
  /-- Starts a child whose descriptors are copies of the given ones of the parent. -/
  | spawn (task : Task) (fds : List (Nat × Nat))
  /-- Waits for a child to end; a handled signal that comes meanwhile cuts the wait short
  with `intr`. -/
  | waitChild (pid : Int32)
  /-- A signal to a process (`target > 0`), to the own group (`0`) or to a group (`-g`). -/
  | kill (target : Int) (signal : Nat)
  | self
  | clock
  | sleepUntil (time : Nat)
  | stat (path : String) (follow : Bool)
  /-- What an open descriptor reads or writes. -/
  | statFd (fd : Nat)
  | listDir (path : String)
  | makeDir (path : String)
  | setMode (path : String) (mode : Nat)
  | touch (path : String)
  | remove (path : String)
  | removeDir (path : String)
  | changeDir (path : String)
  | currentDir
  /-- Replaces the running program by an executed file; the reply comes only on failure. -/
  | exec (path : String) (argv : List String) (env : List (String × String))
  | environment
  /-- Opens a descriptor that reads the given bytes. -/
  | openData (data : ByteArray)
  | exit (code : Nat)
  /-- Sets how the process takes a signal. KILL and STOP keep their default, and a signal
  that was ignored when the program began stays ignored. -/
  | setSignal (signal : Nat) (disposition : Disposition)
  /-- The handled signals that came and were not yet taken, in the order they came; they are
  taken. -/
  | takeSignals
  /-- The handled signals that came and were not yet taken, which stay. -/
  | pendingSignals
  /-- Ends a shell with a status: the host continues the process with the shell's last steps
  (its exit trap), which end with its exit. -/
  | leaveShell (frame : Script.Frame) (code : Nat)

/-- The type of the reply to each request. -/
def Op.Reply : Op → Type
  | .read _ _ => Except Errno ByteArray
  | .write _ _ => Except Errno Unit
  | .openFile _ _ => Except Errno Nat
  | .close _ => Unit
  | .pipe => Except Errno (Nat × Nat)
  | .spawn _ _ => Except Errno Int32
  | .waitChild _ => Except Errno Ending
  | .kill _ _ => Except Errno Unit
  | .self => Int32 × Int32
  | .clock => Nat
  | .sleepUntil _ => Unit
  | .stat _ _ => Except Errno FileInfo
  | .statFd _ => Except Errno FileInfo
  | .listDir _ => Except Errno (List String)
  | .makeDir _ => Except Errno Unit
  | .setMode _ _ => Except Errno Unit
  | .touch _ => Except Errno Unit
  | .remove _ => Except Errno Unit
  | .removeDir _ => Except Errno Unit
  | .changeDir _ => Except Errno Unit
  | .currentDir => Except Errno String
  | .exec _ _ _ => Errno
  | .environment => List (String × String)
  | .openData _ => Nat
  | .exit _ => Empty
  | .setSignal _ _ => Unit
  | .takeSignals => List Nat
  | .pendingSignals => List Nat
  | .leaveShell _ _ => Empty

/-- A program of a process. -/
inductive Prog (α : Type) where
  | done (a : α)
  | op (o : Op) (k : o.Reply → Prog α)

namespace Prog

/-- Runs `x`, then the program its result chooses. -/
def bind {α β : Type} : Prog α → (α → Prog β) → Prog β
  | .done a, f => f a
  | .op o k, f => .op o fun r => bind (k r) f

instance : Monad Prog where
  pure := Prog.done
  bind := Prog.bind

/-- Issues one request. -/
def ask (o : Op) : Prog o.Reply :=
  .op o Prog.done

/-- Ends the process with an exit code. -/
def exit {α : Type} (code : Nat) : Prog α :=
  .op (.exit code) fun e => nomatch e

/-- Ends a shell with a status, after its last steps. -/
def leaveShell {α : Type} (frame : Script.Frame) (code : Nat) : Prog α :=
  .op (.leaveShell frame code) fun e => nomatch e

/-- Writes bytes, ignoring failure. -/
def put (fd : Nat) (data : ByteArray) : Prog Unit := do
  if data.size = 0 then return
  let _ ← ask (.write fd data)

/-- Writes text, ignoring failure. -/
def putStr (fd : Nat) (s : String) : Prog Unit :=
  put fd s.toUTF8

/-- A diagnostic on the error stream: `<program>: <message>`. -/
def complain (program msg : String) : Prog Unit :=
  putStr 2 (program ++ ": " ++ msg ++ "\n")

/-- The bound on the waits that handled signals cut short. -/
def interruptFuel : Nat := 1000000

/-- Waits for a child to end, waiting again when a handled signal cuts the wait short. -/
def awaitEnd (pid : Int32) : Nat → Prog (Except Errno Ending)
  | 0 => ask (.waitChild pid)
  | fuel + 1 => do
    match ← ask (.waitChild pid) with
    | .error .intr => awaitEnd pid fuel
    | r => pure r

/-- The bound on reads of one input. -/
def readFuel : Nat := 10000000

/-- Reads a descriptor to its end. -/
def readAllWith (fd : Nat) : Nat → ByteArray → Prog (Except Errno ByteArray)
  | 0, acc => pure (.ok acc)
  | fuel + 1, acc => do
    match ← ask (.read fd 65536) with
    | .error e => pure (.error e)
    | .ok chunk =>
      if chunk.size = 0 then pure (.ok acc) else readAllWith fd fuel (acc ++ chunk)

/-- Reads a descriptor to its end. -/
def readAll (fd : Nat) : Prog (Except Errno ByteArray) :=
  readAllWith fd readFuel ByteArray.empty

/-- Reads a file by path to its end. -/
def readPath (path : String) : Prog (Except Errno ByteArray) := do
  match ← ask (.openFile path .read) with
  | .error e => pure (.error e)
  | .ok fd =>
    let r ← readAll fd
    let _ ← ask (.close fd)
    pure r

end Prog

end JobControl.Host
