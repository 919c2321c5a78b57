import JobControl.Host.Files
import JobControl.Host.Program
import JobControl.Locations
import JobControl.Sys.Call

/-!
# The host machine

A deterministic model of the system the shell runs on: the file tree, open files shared by
descriptors, pipes, processes with their groups and parents, signals, and a clock.

* Open files count their descriptors; when the last one closes, a pipe end closes with it, so
  a reader sees the end of input once no writer is left, and a writer with no reader left is
  killed by SIGPIPE. A pipe holds at most 64 KiB.
* A process is running, stopped, or a zombie holding how it ended until its parent collects it.
  A stop and a continuation leave news for the parent's waits; an exit replaces any news.
  Orphans pass to process 1, which collects them at once.
* A process ignores a signal, handles it, or takes it by its default: 0 tests, KILL and the
  fatal signals end the process (a stopped one too), CONT continues, STOP, TSTP, TTIN and TTOU
  stop, CHLD, URG and WINCH are ignored. A handled signal is noted for the program to take,
  and cuts short a wait for a child. An executed program handles nothing, and keeps for good
  what its parent ignored.
* `runUntil` steps the running processes round-robin, a bounded number of requests each, and
  when none can move, sets the clock to the earliest wake-up of a sleeper.

The shell itself is a process that the host never steps: its requests arrive as system calls.
What a new process runs comes from a `Loader`, so that programs and the machine stay apart.
-/

namespace JobControl.Host

open Sys

/-- What an open file reads or writes. -/
inductive Channel
  | null
  | file (node : Nat) (pos : Nat) (append readable writable : Bool)
  | directory
  | pipeIn (pipe : Nat)
  | pipeOut (pipe : Nat)
  | snapshot (data : ByteArray) (pos : Nat)

/-- An open file and the number of descriptors that refer to it. -/
structure OpenFile where
  channel : Channel
  refs : Nat

/-- A pipe: the bytes in it and which of its ends are open. -/
structure Pipe where
  buffer : ByteArray
  readOpen : Bool
  writeOpen : Bool

/-- Whether a process runs, is stopped, or has ended. -/
inductive Life
  | running
  | stopped
  | zombie (ending : Ending)

/-- What a parent's wait can learn about a live child. -/
inductive News
  | stopped (signal : Nat)
  | continued

/-- A process. -/
structure Proc where
  pid : Int32
  ppid : Int32
  pgid : Int32
  comm : String
  cwd : String
  fds : List (Nat × Nat)
  /-- The environment the process was started with. -/
  env : List (String × String)
  prog : Prog Nat
  life : Life
  news : Option News
  /-- The shell: its requests come as system calls, and it is never stepped. -/
  external : Bool
  /-- The signals the process ignores. -/
  ignored : List Nat
  /-- The signals ignored since its program began, which stay ignored. -/
  ignoredForGood : List Nat
  /-- The signals the process handles. -/
  handled : List Nat
  /-- Handled signals that came and were not yet taken, in the order they came. -/
  pending : List Nat
  /-- A handled signal came since the last wait that it cut short. -/
  interrupted : Bool

/-- How a process takes a signal. -/
def Proc.disposition (p : Proc) (sig : Nat) : Disposition :=
  if p.ignored.contains sig then .ignore
  else if p.handled.contains sig then .handle
  else .byDefault

/-- Sets how a process takes a signal; a handled signal that is no longer handled is dropped
from those that came. -/
def Proc.dispose (p : Proc) (sig : Nat) (how : Disposition) : Proc :=
  let ignored := p.ignored.filter (· ≠ sig)
  let handled := p.handled.filter (· ≠ sig)
  let pending := if how = .handle then p.pending else p.pending.filter (· ≠ sig)
  match how with
  | .byDefault => { p with ignored := ignored, handled := handled, pending := pending }
  | .ignore => { p with ignored := ignored ++ [sig], handled := handled, pending := pending }
  | .handle => { p with ignored := ignored, handled := handled ++ [sig], pending := pending }

/-- Notes a handled signal that came. -/
def Proc.note (p : Proc) (sig : Nat) : Proc :=
  { p with pending := if p.pending.contains sig then p.pending else p.pending ++ [sig],
           interrupted := true }

/-- What a new process runs: the program and the name it is known by. -/
structure Loaded where
  prog : Prog Nat
  comm : String

/-- How the machine turns a task into a program. -/
structure Loader where
  /-- Executes a path with arguments from a working directory, searching `PATH` for a name
  without `/`. -/
  exec : Files → String → String → String → List String → Except Errno Loaded
  /-- A copy of a script continuing with one command, first ignoring the given signals. -/
  subshell : Script.Cmd → Script.Frame → List Nat → Prog Nat
  /-- The last steps of a shell that ends with a status. -/
  leave : Script.Frame → Nat → Prog Nat

/-- The directories searched for a program when the environment has no `PATH`. -/
def defaultSearchPath : String := "/bin:/usr/bin"

/-- The whole machine. -/
structure Machine where
  files : Files
  opens : Array OpenFile
  pipes : Array Pipe
  procs : List Proc
  nextPid : Int32
  clock : Nat
  shell : Int32
  /-- A child of the shell changed state since the shell last asked. -/
  childSignal : Bool
  env : Environment
  loader : Loader

namespace Machine

/-! ## Processes -/

/-- The process with a pid. -/
def proc? (m : Machine) (pid : Int32) : Option Proc :=
  m.procs.find? (·.pid = pid)

/-- Changes the process with a pid. -/
def updateProc (m : Machine) (pid : Int32) (f : Proc → Proc) : Machine :=
  { m with procs := m.procs.map fun p => if p.pid = pid then f p else p }

/-- Removes a process. -/
def dropProc (m : Machine) (pid : Int32) : Machine :=
  { m with procs := m.procs.filter (·.pid ≠ pid) }

/-- The children of a process, oldest first. -/
def children (m : Machine) (pid : Int32) : List Proc :=
  m.procs.filter (·.ppid = pid)

/-- Marks that a child of the shell changed state. -/
def noteChange (m : Machine) (parent : Int32) : Machine :=
  if parent = m.shell then { m with childSignal := true } else m

/-! ## Open files -/

/-- Adds an open file with one reference. -/
def addOpen (m : Machine) (c : Channel) : Nat × Machine :=
  (m.opens.size, { m with opens := m.opens.push ⟨c, 1⟩ })

/-- Adds a reference to an open file. -/
def retain (m : Machine) (o : Nat) : Machine :=
  { m with opens := m.opens.modify o fun f => { f with refs := f.refs + 1 } }

/-- Drops a reference to an open file; the last one closes a pipe end. -/
def release (m : Machine) (o : Nat) : Machine :=
  match m.opens[o]? with
  | none => m
  | some f =>
    let m := { m with opens := m.opens.modify o fun f => { f with refs := f.refs - 1 } }
    if f.refs ≤ 1 then
      match f.channel with
      | .pipeIn p => { m with pipes := m.pipes.modify p fun q => { q with readOpen := false } }
      | .pipeOut p => { m with pipes := m.pipes.modify p fun q => { q with writeOpen := false } }
      | _ => m
    else m

/-- Sets the channel of an open file. -/
def setChannel (m : Machine) (o : Nat) (c : Channel) : Machine :=
  { m with opens := m.opens.modify o fun f => { f with channel := c } }

/-- The lowest descriptor a process does not use. -/
def freeFd (p : Proc) : Nat :=
  let used := p.fds.map (·.1)
  (List.range (used.length + 1)).find? (fun n => !used.contains n) |>.getD used.length

/-- Gives a process a new descriptor for an open file it already holds a reference to. -/
def attach (m : Machine) (pid : Int32) (o : Nat) : Nat × Machine :=
  match m.proc? pid with
  | none => (0, m)
  | some p =>
    let fd := freeFd p
    (fd, m.updateProc pid fun p => { p with fds := (fd, o) :: p.fds })

/-- The open file behind a descriptor. -/
def openOf? (m : Machine) (pid : Int32) (fd : Nat) : Option Nat :=
  (m.proc? pid).bind fun p => p.fds.lookup fd

/-- Closes a descriptor. -/
def closeFd (m : Machine) (pid : Int32) (fd : Nat) : Machine :=
  match m.openOf? pid fd with
  | none => m
  | some o =>
    (m.updateProc pid fun p => { p with fds := p.fds.filter (·.1 ≠ fd) }).release o

/-- Closes every descriptor of a process. -/
def closeAllFds (m : Machine) (pid : Int32) : Machine :=
  match m.proc? pid with
  | none => m
  | some p => p.fds.foldl (fun m (fd, _) => m.closeFd pid fd) m

/-! ## Ends, stops and continuations -/

/-- Ends a process: its files close, its children pass to process 1 (which collects those that
have ended), and its parent is told. A process whose parent is 1 is collected at once. -/
def terminate (m : Machine) (pid : Int32) (ending : Ending) : Machine :=
  match m.proc? pid with
  | none => m
  | some p =>
    match p.life with
    | .zombie _ => m
    | _ =>
      let m := m.closeAllFds pid
      let adopted : List Proc := m.procs.map fun q =>
        if q.ppid = pid then { q with ppid := 1 } else q
      let kept := adopted.filter fun q =>
        !(q.ppid = 1 && match q.life with | .zombie _ => true | _ => false)
      let m := { m with procs := kept }
      if p.ppid = 1 then m.dropProc pid
      else
        let m := m.updateProc pid fun q => { q with life := .zombie ending, news := none }
        m.noteChange p.ppid

/-- Stops a running process. -/
def stop (m : Machine) (pid : Int32) (sig : Nat) : Machine :=
  match m.proc? pid with
  | some p =>
    match p.life with
    | .running => (m.updateProc pid fun q => { q with life := .stopped, news := some (.stopped sig) }).noteChange p.ppid
    | _ => m
  | none => m

/-- Continues a stopped process. -/
def resume (m : Machine) (pid : Int32) : Machine :=
  match m.proc? pid with
  | some p =>
    match p.life with
    | .stopped => (m.updateProc pid fun q => { q with life := .running, news := some .continued }).noteChange p.ppid
    | _ => m
  | none => m

/-- The signal that always ends a process. -/
def sigkill : Nat := 9

/-- The signal that always stops a process. -/
def sigstop : Nat := 19

/-- Signal numbers that stop a process. -/
def stopSignals : List Nat := [19, 20, 21, 22]

/-- Signal numbers whose default is to be ignored. -/
def ignoredSignals : List Nat := [17, 23, 28]

/-- Delivers a signal to one process: an ignored one does nothing and a handled one is noted,
though CONT continues the process either way; otherwise the signal acts by its default.
KILL and STOP are never ignored or handled. -/
def deliver (m : Machine) (pid : Int32) (sig : Nat) : Machine :=
  let how := match m.proc? pid with
    | some p => p.disposition sig
    | none => .byDefault
  if sig = 0 then m
  else
    match how with
    | .ignore => if sig = sigcont then m.resume pid else m
    | .handle => (if sig = sigcont then m.resume pid else m).updateProc pid (·.note sig)
    | .byDefault =>
      if ignoredSignals.contains sig then m
      else if sig = sigcont then m.resume pid
      else if stopSignals.contains sig then m.stop pid sig
      else m.terminate pid (.signaled sig)

/-- The processes a signal target names: a pid, the sender's group (`0`) or a group (`-g`). -/
def targets (m : Machine) (sender : Int32) (target : Int) : List Int32 :=
  if target > 0 then (m.procs.filter (·.pid.toInt = target)).map (·.pid)
  else if target = 0 then
    match m.proc? sender with
    | some s => (m.procs.filter (·.pgid = s.pgid)).map (·.pid)
    | none => []
  else if target = -1 then
    (m.procs.filter fun p => p.pid ≠ sender && !p.external).map (·.pid)
  else (m.procs.filter (·.pgid.toInt = -target)).map (·.pid)

/-- Sends a signal as `kill` does. -/
def kill (m : Machine) (sender : Int32) (target : Int) (sig : Nat) : Except Errno Machine :=
  if sig > 64 then .error .inval
  else
    match m.targets sender target with
    | [] => .error .srch
    | pids => .ok (pids.foldl (fun m pid => m.deliver pid sig) m)

/-! ## Opening paths -/

/-- The generated text of `/proc/<pid>/stat`. -/
def statLine (p : Proc) : String :=
  let state := match p.life with
    | .zombie _ => "Z"
    | .stopped => "T"
    | .running => match p.prog with
      | .op (.sleepUntil _) _ => "S"
      | .op (.waitChild _) _ => "S"
      | .op (.read _ _) _ => "S"
      | _ => "R"
  toString p.pid.toInt ++ " (" ++ p.comm ++ ") " ++ state ++ " " ++ toString p.ppid.toInt ++ " " ++
    toString p.pgid.toInt ++ " " ++ toString p.pgid.toInt ++
    " 0 -1 4194560 0 0 0 0 0 0 0 0 20 0 1 0 0 0 0\n"

/-- The process a `/proc` path is about, and whether it names its `stat` file. -/
def procPath? (m : Machine) (cwd path : String) : Option (Option Proc × Bool) :=
  let full := if Path.isAbsolute path then path else Path.join cwd path
  match (Files.components full).1 with
  | ["proc", n] => some ((n.toNat?).bind (fun k => m.proc? (Int32.ofNat k)), false)
  | ["proc", n, "stat"] => some ((n.toNat?).bind (fun k => m.proc? (Int32.ofNat k)), true)
  | _ => none

/-- The information `stat` gives about a node. -/
def infoOf (fs : Files) (n : Nat) : Option FileInfo :=
  (fs.get? n).map fun i =>
    let (kind, size) : FileKind × Nat := match i.node with
      | .dir _ => (.directory, 4096)
      | .file d => (.regular, d.size)
      | .link t => (.symlink, t.utf8ByteSize)
      | .null => (.device, 0)
    ⟨kind, i.mode, size, n, i.owned, i.stamp⟩

/-- The descriptor a path names that stands for a descriptor of the process itself:
`/dev/stdin`, `/dev/stdout`, `/dev/stderr`, `/dev/fd/N` and `/proc/self/fd/N`. -/
def fdAlias? (cwd path : String) : Option Nat :=
  let full := if Path.isAbsolute path then path else Path.join cwd path
  match (Files.components full).1 with
  | ["dev", "stdin"] => some 0
  | ["dev", "stdout"] => some 1
  | ["dev", "stderr"] => some 2
  | ["dev", "fd", n] => n.toNat?
  | ["proc", "self", "fd", n] => n.toNat?
  | _ => none

/-- Opens a descriptor of a process again under a new descriptor: a regular file afresh, from
its start (and emptied when the mode asks), anything else as the same open file. -/
def reopen (m : Machine) (pid : Int32) (fd : Nat) (mode : OpenMode) : Except Errno (Nat × Machine) :=
  match (m.openOf? pid fd).bind fun o => (m.opens[o]?).map (o, ·) with
  | none => .error .noent
  | some (o, f) =>
    match f.channel with
    | .file n _ _ _ _ =>
      let (append, truncate, readable, writable) : Bool × Bool × Bool × Bool := match mode with
        | .read => (false, false, true, false)
        | .write a t => (a, t, false, true)
        | .readWrite => (false, false, true, true)
      let m := if truncate then { m with files := m.files.truncate n } else m
      let (o', m) := m.addOpen (.file n 0 append readable writable)
      .ok (m.attach pid o')
    | _ => .ok ((m.retain o).attach pid o)

/-- What `stat` tells about an open file. -/
def infoOfOpen (m : Machine) (o : Nat) : Option FileInfo :=
  match m.opens[o]? with
  | none => none
  | some f =>
    match f.channel with
    | .file n _ _ _ _ => infoOf m.files n
    | .null => some ⟨.device, 0o666, 0, 0, false, 0⟩
    | .directory => some ⟨.directory, 0o755, 4096, 0, false, 0⟩
    | .pipeIn _ => some ⟨.pipe, 0o600, 0, 0, true, 0⟩
    | .pipeOut _ => some ⟨.pipe, 0o600, 0, 0, true, 0⟩
    | .snapshot _ _ => some ⟨.pipe, 0o600, 0, 0, true, 0⟩

/-- Where a file opened for writing is: an existing file the user may write, or a directory
the user may write and a name for a new file. A directory cannot be written; a missing name
written with a final `/` would have to be a directory. -/
def openForWriting (m : Machine) (cwd path : String) : Except Errno (Nat ⊕ (Nat × String)) :=
  match m.files.locate cwd path with
  | .error .noent =>
    if path.endsWith "/" then
      match m.files.locate cwd (path.dropEndWhile '/').toString with
      | .ok (.missing _ _ _) => .error .isdir
      | _ => .error .noent
    else .error .noent
  | .error e => .error e
  | .ok (.existing n _) =>
    match m.files.get? n with
    | some i =>
      match i.node with
      | .dir _ => .error .isdir
      | _ => if i.allows 2 then .ok (.inl n) else .error .acces
    | none => .error .noent
  | .ok (.missing d _ name) =>
    if m.files.allows d 2 then .ok (.inr (d, name)) else .error .acces

/-- Opens a path for a process in its working directory. -/
def openPath (m : Machine) (cwd path : String) (mode : OpenMode) : Except Errno (Channel × Machine) :=
  match m.procPath? cwd path with
  | some (none, _) => .error .noent
  | some (some p, isStat) =>
    if isStat then
      match mode with
      | .read => .ok (.snapshot (statLine p).toUTF8 0, m)
      | _ => .error .acces
    else .ok (.directory, m)
  | none =>
  match mode with
  | .read =>
    match m.files.lookup cwd path true with
    | .error e => .error e
    | .ok (n, _) =>
      match m.files.get? n with
      | some i =>
        if !i.allows 4 then .error .acces
        else
          match i.node with
          | .dir _ => .ok (.directory, m)
          | .null => .ok (.null, m)
          | .file _ => .ok (.file n 0 false true false, m)
          | .link _ => .error .noent
      | none => .error .noent
  | .write append truncate =>
    match m.openForWriting cwd path with
    | .error e => .error e
    | .ok (.inl n) =>
      match ((m.files.get? n).map (·.node) : Option Node) with
      | some (.null) => .ok (.null, m)
      | _ =>
        let files := if truncate then m.files.truncate n else m.files
        .ok (.file n 0 append false true, { m with files := files })
    | .ok (.inr (d, name)) =>
      let (n, files) := m.files.create d name ⟨.file ByteArray.empty, 0o644, true, 0⟩
      .ok (.file n 0 append false true, { m with files := files })
  | .readWrite =>
    match m.openForWriting cwd path with
    | .error e => .error e
    | .ok (.inl n) =>
      match ((m.files.get? n).map (·.node) : Option Node) with
      | some (.null) => .ok (.null, m)
      | _ =>
        if m.files.allows n 4 then .ok (.file n 0 false true true, m) else .error .acces
    | .ok (.inr (d, name)) =>
      let (n, files) := m.files.create d name ⟨.file ByteArray.empty, 0o644, true, 0⟩
      .ok (.file n 0 false true true, { m with files := files })

/-! ## Reading and writing -/

/-- The most bytes a pipe holds. -/
def pipeCapacity : Nat := 65536

/-- What became of a read or write: done, blocked, partly done, or the end of the process. -/
inductive Transfer (α : Type)
  | done (a : α)
  | blocked
  | short (rest : ByteArray)
  | killed

/-- Reads up to `max` bytes from an open file. -/
def readOpen (m : Machine) (o : Nat) (max : Nat) : Transfer (Except Errno ByteArray) × Machine :=
  match m.opens[o]? with
  | none => (.done (.error .badf), m)
  | some f =>
    match f.channel with
    | .null => (.done (.ok ByteArray.empty), m)
    | .directory => (.done (.error .isdir), m)
    | .file n pos append readable writable =>
      if !readable then (.done (.error .badf), m)
      else
        let d := m.files.data n
        let chunk := d.extract pos (pos + max)
        (.done (.ok chunk), m.setChannel o (.file n (pos + chunk.size) append readable writable))
    | .snapshot d pos =>
      let chunk := d.extract pos (pos + max)
      (.done (.ok chunk), m.setChannel o (.snapshot d (pos + chunk.size)))
    | .pipeIn p =>
      match m.pipes[p]? with
      | none => (.done (.ok ByteArray.empty), m)
      | some q =>
        if q.buffer.size = 0 then
          if q.writeOpen then (.blocked, m) else (.done (.ok ByteArray.empty), m)
        else
          let chunk := q.buffer.extract 0 max
          let rest := q.buffer.extract chunk.size q.buffer.size
          (.done (.ok chunk), { m with pipes := m.pipes.modify p fun q => { q with buffer := rest } })
    | .pipeOut _ => (.done (.error .badf), m)

/-- Writes bytes to an open file for a process; a write to a pipe without readers kills it. -/
def writeOpen (m : Machine) (pid : Int32) (o : Nat) (data : ByteArray) :
    Transfer (Except Errno Unit) × Machine :=
  match m.opens[o]? with
  | none => (.done (.error .badf), m)
  | some f =>
    match f.channel with
    | .null => (.done (.ok ()), m)
    | .directory => (.done (.error .badf), m)
    | .snapshot _ _ => (.done (.error .badf), m)
    | .pipeIn _ => (.done (.error .badf), m)
    | .file n pos append readable writable =>
      if !writable then (.done (.error .badf), m)
      else
        let offset := if append then (m.files.data n).size else pos
        let files := m.files.writeAt n offset data
        (.done (.ok ()), { m with files := files }.setChannel o
          (.file n (offset + data.size) append readable writable))
    | .pipeOut p =>
      match m.pipes[p]? with
      | none => (.done (.error .pipe), m)
      | some q =>
        if !q.readOpen then (.killed, m.terminate pid (.signaled 13))
        else if q.buffer.size ≥ pipeCapacity then (.blocked, m)
        else
          let room := pipeCapacity - q.buffer.size
          let now := data.extract 0 room
          let rest := data.extract now.size data.size
          let m := { m with pipes := m.pipes.modify p fun q => { q with buffer := q.buffer ++ now } }
          if rest.size = 0 then (.done (.ok ()), m) else (.short rest, m)

/-! ## Requests of processes -/

/-- What a request came to. -/
inductive Outcome (o : Op)
  | reply (r : o.Reply)
  | blocked
  | short (rest : ByteArray)
  | ended
  /-- The process runs a new program, already in place. -/
  | replaced

/-- Turns a transfer into the outcome of a request. -/
def Transfer.outcome {o : Op} : Transfer o.Reply → Outcome o
  | .done r => .reply r
  | .blocked => .blocked
  | .short rest => .short rest
  | .killed => .ended

/-- Starts a child of a process running a task, its descriptors copied from the parent's. -/
def spawnChild (m : Machine) (parent : Proc) (task : Task) (fds : List (Nat × Nat)) :
    Except Errno (Int32 × Machine) :=
  let loaded := match task with
    | .exec path argv env => m.loader.exec m.files parent.cwd ((env.lookup "PATH").getD defaultSearchPath) path argv
    | .subshell body frame ignoring => .ok ⟨m.loader.subshell body frame ignoring, parent.comm⟩
  let env := match task with
    | .exec _ _ env => env
    | .subshell _ _ _ => parent.env
  -- an executed file starts with the ignored signals of its parent, ignored for good; a copy
  -- of a script keeps what its parent ignores, and handles nothing
  let forGood := match task with
    | .exec _ _ _ => parent.ignored
    | .subshell _ _ _ => parent.ignoredForGood
  match loaded with
  | .error e => .error e
  | .ok l =>
    let pid := m.nextPid
    let table := fds.filterMap fun (child, par) => (parent.fds.lookup par).map (child, ·)
    let p : Proc := ⟨pid, parent.pid, parent.pgid, l.comm, parent.cwd, table, env, l.prog,
      .running, none, false, parent.ignored, forGood, [], [], false⟩
    let m := table.foldl (fun m (_, o) => m.retain o) m
    .ok (pid, { m with procs := m.procs ++ [p], nextPid := pid + 1 })

/-- Performs one request of a process. -/
def perform (m : Machine) (p : Proc) (o : Op) : Outcome o × Machine :=
  match o with
  | .read fd max =>
    match m.openOf? p.pid fd with
    | none => (.reply (.error .badf), m)
    | some f => let (t, m) := m.readOpen f max; (Transfer.outcome t, m)
  | .write fd data =>
    match m.openOf? p.pid fd with
    | none => (.reply (.error .badf), m)
    | some f => let (t, m) := m.writeOpen p.pid f data; (Transfer.outcome t, m)
  | .openFile path mode =>
    match fdAlias? p.cwd path with
    | some fd =>
      match m.reopen p.pid fd mode with
      | .ok (newFd, m) => (.reply (.ok newFd), m)
      | .error e => (.reply (.error e), m)
    | none =>
    match m.openPath p.cwd path mode with
    | .error e => (.reply (.error e), m)
    | .ok (c, m) =>
      let (o, m) := m.addOpen c
      let (fd, m) := m.attach p.pid o
      (.reply (.ok fd), m)
  | .close fd => (.reply (), m.closeFd p.pid fd)
  | .pipe =>
    let q := m.pipes.size
    let m := { m with pipes := m.pipes.push ⟨ByteArray.empty, true, true⟩ }
    let (r, m) := m.addOpen (.pipeIn q)
    let (w, m) := m.addOpen (.pipeOut q)
    let (rfd, m) := m.attach p.pid r
    let (wfd, m) := m.attach p.pid w
    (.reply (.ok (rfd, wfd)), m)
  | .spawn task fds =>
    match m.spawnChild p task fds with
    | .error e => (.reply (.error e), m)
    | .ok (pid, m) => (.reply (.ok pid), m)
  | .waitChild pid =>
    match m.proc? pid with
    | none => (.reply (.error .child), m)
    | some c =>
      if c.ppid ≠ p.pid then (.reply (.error .child), m)
      else
        match c.life with
        | .zombie ending => (.reply (.ok ending), m.dropProc pid)
        | _ =>
          if p.interrupted then
            (.reply (.error .intr), m.updateProc p.pid fun q => { q with interrupted := false })
          else (.blocked, m)
  | .kill target sig =>
    match m.kill p.pid target sig with
    | .error e => (.reply (.error e), m)
    | .ok m =>
      match m.proc? p.pid with
      | some q =>
        match q.life with
        | .zombie _ => (.ended, m)
        | .stopped => (.reply (.ok ()), m)
        | .running => (.reply (.ok ()), m)
      | none => (.ended, m)
  | .self => (.reply (p.pid, p.ppid), m)
  | .clock => (.reply m.clock, m)
  | .sleepUntil t => if t ≤ m.clock then (.reply (), m) else (.blocked, m)
  | .stat path follow =>
    match fdAlias? p.cwd path with
    | some fd =>
      match (m.openOf? p.pid fd).bind m.infoOfOpen with
      | some i => (.reply (.ok i), m)
      | none => (.reply (.error .noent), m)
    | none =>
    match m.procPath? p.cwd path with
    | some (none, _) => (.reply (.error .noent), m)
    | some (some _, isStat) =>
      (.reply (.ok (if isStat then ⟨.regular, 0o444, 0, 0, false, 0⟩ else ⟨.directory, 0o555, 0, 0, false, 0⟩)), m)
    | none =>
      match m.files.lookup p.cwd path follow with
      | .error e => (.reply (.error e), m)
      | .ok (n, _) =>
        match infoOf m.files n with
        | some i => (.reply (.ok i), m)
        | none => (.reply (.error .noent), m)
  | .statFd fd =>
    match (m.openOf? p.pid fd).bind m.infoOfOpen with
    | some i => (.reply (.ok i), m)
    | none => (.reply (.error .badf), m)
  | .listDir path =>
    match m.files.lookup p.cwd path true with
    | .error e => (.reply (.error e), m)
    | .ok (n, _) =>
      if !m.files.isDir n then (.reply (.error .notdir), m)
      else if !m.files.allows n 4 then (.reply (.error .acces), m)
      else (.reply (.ok ((m.files.entries n).map (·.1))), m)
  | .makeDir path =>
    match m.files.locate p.cwd path with
    | .error e => (.reply (.error e), m)
    | .ok (.existing _ _) => (.reply (.error .exist), m)
    | .ok (.missing d _ name) =>
      if !m.files.allows d 2 then (.reply (.error .acces), m) else
      let (_, files) := m.files.create d name ⟨.dir [], 0o755, true, 0⟩
      (.reply (.ok ()), { m with files := files })
  | .setMode path mode =>
    match m.files.lookup p.cwd path true with
    | .error e => (.reply (.error e), m)
    | .ok (n, _) =>
      if (m.files.get? n).any (·.owned) then (.reply (.ok ()), { m with files := m.files.setMode n mode })
      else (.reply (.error .perm), m)
  | .touch path =>
    match m.files.locate p.cwd path with
    | .error e => (.reply (.error e), m)
    | .ok (.existing n _) =>
      if m.files.allows n 2 || (m.files.get? n).any (·.owned) then
        (.reply (.ok ()), { m with files := m.files.stampNow n })
      else (.reply (.error .acces), m)
    | .ok (.missing d _ name) =>
      if !m.files.allows d 2 then (.reply (.error .acces), m) else
      let (_, files) := m.files.create d name ⟨.file ByteArray.empty, 0o644, true, 0⟩
      (.reply (.ok ()), { m with files := files })
  | .remove path =>
    match m.files.lookup p.cwd path false with
    | .error e => (.reply (.error e), m)
    | .ok (n, canonical) =>
      if m.files.isDir n then (.reply (.error .isdir), m)
      else
        let parent := ((Files.components canonical).1.dropLast)
        match m.files.lookup "/" ("/" ++ "/".intercalate parent) true with
        | .ok (d, _) =>
          let name := ((Files.components canonical).1.getLast?).getD ""
          if !m.files.allows d 2 then (.reply (.error .acces), m)
          else (.reply (.ok ()), { m with files := m.files.unlinkEntry d name })
        | .error e => (.reply (.error e), m)
  | .removeDir path =>
    match m.files.lookup p.cwd path false with
    | .error e => (.reply (.error e), m)
    | .ok (n, canonical) =>
      if !m.files.isDir n then (.reply (.error .notdir), m)
      else if !(m.files.entries n).isEmpty then (.reply (.error .notempty), m)
      else
        let parent := ((Files.components canonical).1.dropLast)
        match m.files.lookup "/" ("/" ++ "/".intercalate parent) true with
        | .ok (d, _) =>
          let name := ((Files.components canonical).1.getLast?).getD ""
          if !m.files.allows d 2 then (.reply (.error .acces), m)
          else (.reply (.ok ()), { m with files := m.files.unlinkEntry d name })
        | .error e => (.reply (.error e), m)
  | .changeDir path =>
    match m.files.lookup p.cwd path true with
    | .error e => (.reply (.error e), m)
    | .ok (n, canonical) =>
      if !m.files.isDir n then (.reply (.error .notdir), m)
      else if !m.files.allows n 1 then (.reply (.error .acces), m)
      else (.reply (.ok ()), m.updateProc p.pid fun q => { q with cwd := canonical })
  | .currentDir => (.reply (.ok p.cwd), m)
  | .exec path argv env =>
    match m.loader.exec m.files p.cwd ((env.lookup "PATH").getD defaultSearchPath) path argv with
    | .error e => (.reply e, m)
    | .ok l =>
      -- the new program handles nothing, and what was ignored stays ignored for good
      (.replaced, m.updateProc p.pid fun q =>
        { q with prog := l.prog, comm := l.comm, env := env, handled := [], pending := [],
                 interrupted := false, ignoredForGood := q.ignored })
  | .environment => (.reply p.env, m)
  | .openData data =>
    let (o, m) := m.addOpen (.snapshot data 0)
    let (fd, m) := m.attach p.pid o
    (.reply fd, m)
  | .exit code => (.ended, m.terminate p.pid (.exited (code % 256)))
  | .setSignal sig how =>
    if sig = 0 || sig > 64 || sig = sigkill || sig = sigstop || p.ignoredForGood.contains sig then
      (.reply (), m)
    else (.reply (), m.updateProc p.pid (·.dispose sig how))
  | .takeSignals =>
    (.reply p.pending, m.updateProc p.pid fun q => { q with pending := [], interrupted := false })
  | .pendingSignals => (.reply p.pending, m)
  | .leaveShell frame code =>
    (.replaced, m.updateProc p.pid fun q => { q with prog := m.loader.leave frame code })

/-! ## Scheduling -/

/-- Steps a process for up to `quantum` requests; says whether it did anything. -/
def stepProc (m : Machine) (pid : Int32) : Nat → Machine × Bool
  | 0 => (m, true)
  | quantum + 1 =>
    match m.proc? pid with
    | none => (m, false)
    | some p =>
      if p.external then (m, false)
      else
        match p.life with
        | .running =>
          match p.prog with
          | .done code => (m.terminate pid (.exited (code % 256)), true)
          | .op o k =>
            let (r, m) := m.perform p o
            match r with
            | .reply x =>
              let m := m.updateProc pid fun q => { q with prog := k x }
              (stepProc m pid quantum).1 |> fun m' => (m', true)
            | .blocked => (m, false)
            | .ended => (m, true)
            | .replaced => (m, true)
            | .short rest =>
              let prog : Prog Nat := match o, k with
                | .write fd _, k => .op (.write fd rest) k
                | o, k => .op o k
              (m.updateProc pid fun q => { q with prog := prog }, true)
        | _ => (m, false)

/-- The most requests a process makes in one turn. -/
def quantum : Nat := 64

/-- One turn of every process, oldest first; says whether any did anything. -/
def round (m : Machine) : Machine × Bool :=
  m.procs.map (·.pid) |>.foldl (fun (m, moved) pid =>
    let (m, did) := m.stepProc pid quantum
    (m, moved || did)) (m, false)

/-- The earliest time a sleeping process wakes. -/
def nextWake (m : Machine) : Option Nat :=
  m.procs.foldl (fun acc p =>
    match p.life, p.prog with
    | .running, .op (.sleepUntil t) _ =>
      if t > m.clock then some (match acc with | some a => min a t | none => t) else acc
    | _, _ => acc) none

/-- Runs the processes until `goal` holds; `false` when they can no longer move or the bound
is reached first. -/
def runUntil (goal : Machine → Bool) : Nat → Machine → Machine × Bool
  | 0, m => (m, goal m)
  | fuel + 1, m =>
    if goal m then (m, true)
    else
      let (m', moved) := m.round
      if moved then runUntil goal fuel m'
      else
        match m'.nextWake with
        | some t => runUntil goal fuel { m' with clock := t }
        | none => (m', goal m')

end Machine

end JobControl.Host
