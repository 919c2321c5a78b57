import JobControl.Host.Machine
import JobControl.Sys.Call

/-!
# The shell's calls, answered by the host

`Machine.answer` gives the reply to each system call of the shell, which is the machine's
external process, and `Machine.runShell` runs a whole shell program against the machine.

* Paths with a NUL character are refused before the file tree is asked.
* A spawn finds the program as `execvp` does and fails at once when it cannot be executed; the
  new process gets the given input and output (or the shell's own), the shell's error stream,
  and the shell's directory; the shell's copies of the files it handed over are closed.
* A blocking wait runs the other processes until the child has ended or stopped.
* A sweep collects, oldest child first, every ended child and every stop and continuation not
  yet reported.
-/

namespace JobControl.Host

open Sys

namespace Machine

/-- The shell's process. -/
def shellProc (m : Machine) : Option Proc :=
  m.proc? m.shell

/-- The shell's working directory. -/
def shellCwd (m : Machine) : String :=
  (m.shellProc.map (·.cwd)).getD "/"

/-- Whether a text holds a NUL character. -/
def hasNul (s : String) : Bool :=
  s.toList.contains (Char.ofNat 0)

/-- Opens a path for the shell, giving it a new descriptor. -/
def shellOpen (m : Machine) (path : String) (mode : OpenMode) : Except IoError Handle × Machine :=
  if hasNul path then (.error IoError.nulInPath, m)
  else
    match m.openPath m.shellCwd path mode with
    | .error e => (.error (.os e), m)
    | .ok (c, m) =>
      let (o, m) := m.addOpen c
      let (fd, m) := m.attach m.shell o
      (.ok fd, m)

/-- Closes the files the shell handed to a spawn. -/
def closeHandles (m : Machine) (req : SpawnRequest) : Machine :=
  let m := match req.stdin with
    | .handle h => m.closeFd m.shell h
    | .inherit => m
  match req.stdout with
  | .handle h => m.closeFd m.shell h
  | .inherit => m

/-- The open file a spawned process gets for one of its streams. -/
def streamOf (m : Machine) (s : Stdio) (own : Nat) : Option Nat :=
  match s with
  | .handle h => m.openOf? m.shell h
  | .inherit => m.openOf? m.shell own

/-- Starts a program for the shell. -/
def spawnForShell (m : Machine) (req : SpawnRequest) : Except IoError Pid × Machine :=
  if hasNul req.program || hasNul req.argv0 || req.args.any hasNul then
    (.error IoError.nulInCommand, m.closeHandles req)
  else
    match m.loader.exec m.files m.shellCwd ((m.env.get? "PATH").getD defaultSearchPath) req.program
        (req.argv0 :: req.args) with
    | .error e => (.error (.os e), m.closeHandles req)
    | .ok l =>
      let pid := m.nextPid
      let table := [(0, m.streamOf req.stdin 0), (1, m.streamOf req.stdout 1),
        (2, m.openOf? m.shell 2)].filterMap fun (fd, o) => o.map (fd, ·)
      let p : Proc := ⟨pid, m.shell, req.group.getD pid, l.comm, m.shellCwd, table, m.env.vars,
        l.prog, .running, none, false, [], [], [], [], false⟩
      let m := table.foldl (fun m (_, o) => m.retain o) m
      let m := { m with procs := m.procs ++ [p], nextPid := pid + 1 }
      (.ok pid, m.closeHandles req)

/-- How many scheduling rounds a blocking wait may take. -/
def waitFuel : Nat := 2000000

/-- Whether a child has ended, or stopped without the stop being reported yet. -/
def hasEndOrStop (m : Machine) (pid : Pid) : Bool :=
  match m.proc? pid with
  | none => true
  | some c =>
    match c.life, c.news with
    | .zombie _, _ => true
    | _, some (.stopped _) => true
    | _, _ => false

/-- The result a wait reports for an ending. -/
def waitResultOf : Ending → WaitResult
  | .exited code => .exited (Int32.ofNat code)
  | .signaled sig => .signaled (Int32.ofNat sig)

/-- Waits for a child of the shell to end or stop. -/
def waitForShell (m : Machine) (pid : Pid) : Except Errno WaitResult × Machine :=
  match m.proc? pid with
  | none => (.error .child, m)
  | some c =>
    if c.ppid ≠ m.shell then (.error .child, m)
    else
      let (m, _) := runUntil (hasEndOrStop · pid) waitFuel m
      match m.proc? pid with
      | none => (.error .child, m)
      | some c =>
        match c.life, c.news with
        | .zombie ending, _ => (.ok (waitResultOf ending), m.dropProc pid)
        | _, some (.stopped sig) =>
          (.ok (.stopped (Int32.ofNat sig)), m.updateProc pid fun q => { q with news := none })
        | _, _ => (.error .child, m)

/-- The report a child has ready, if any, and the machine after it is collected. -/
def collect (m : Machine) (c : Proc) : Option Polled × Machine :=
  match c.life, c.news with
  | .zombie (.exited code), _ => (some (.exited c.pid (Int32.ofNat code)), m.dropProc c.pid)
  | .zombie (.signaled sig), _ => (some (.signaled c.pid (Int32.ofNat sig)), m.dropProc c.pid)
  | _, some (.stopped sig) =>
    (some (.stopped c.pid (Int32.ofNat sig)), m.updateProc c.pid fun q => { q with news := none })
  | _, some .continued =>
    (some (.continued c.pid), m.updateProc c.pid fun q => { q with news := none })
  | _, none => (none, m)

/-- Collects every ready report of the shell's children, oldest child first. -/
def sweepForShell (m : Machine) : Sweep × Machine :=
  let (reports, m) := (m.children m.shell).foldl (fun (acc : List Polled × Machine) c =>
    let (r, m) := acc.2.collect c
    (acc.1 ++ r.toList, m)) ([], m)
  let ending := if (m.children m.shell).isEmpty then SweepEnd.failed .child else .stillAlive
  (⟨reports, ending⟩, m)

/-- Sends a signal to a process group for the shell, as `killpg` does. -/
def signalGroupForShell (m : Machine) (pgid : Pid) (sig : Nat) : Except Errno Unit × Machine :=
  if pgid < 0 then (.error .inval, m)
  else
    match m.kill m.shell (if pgid = 0 then 0 else -pgid.toInt) sig with
    | .ok m => (.ok (), m)
    | .error e => (.error e, m)

/-- Changes the shell's working directory. -/
def changeDirForShell (m : Machine) (path : String) : Except IoError Unit × Machine :=
  if hasNul path then (.error IoError.nulInPath, m)
  else
    match m.files.lookup m.shellCwd path true with
    | .error e => (.error (.os e), m)
    | .ok (n, canonical) =>
      if m.files.isDir n then (.ok (), m.updateProc m.shell fun q => { q with cwd := canonical })
      else (.error (.os .notdir), m)

/-- Whether a path names a regular file with an execute bit, links followed. -/
def isExecutablePath (m : Machine) (path : String) : Bool :=
  !hasNul path &&
    match m.files.lookup m.shellCwd path true with
    | .ok (n, _) => m.files.isExecutableNode n
    | .error _ => false

/-- Answers one system call of the shell. -/
def answer (m : Machine) : (c : Call) → c.Reply × Machine
  | .isExecutable path => (m.isExecutablePath path, m)
  | .openRead path => m.shellOpen path .read
  | .openWrite path append => m.shellOpen path (.write append (!append))
  | .close h => ((), m.closeFd m.shell h)
  | .pipe =>
    let q := m.pipes.size
    let m := { m with pipes := m.pipes.push ⟨ByteArray.empty, true, true⟩ }
    let (r, m) := m.addOpen (.pipeIn q)
    let (w, m) := m.addOpen (.pipeOut q)
    let (rfd, m) := m.attach m.shell r
    let (wfd, m) := m.attach m.shell w
    (.ok (rfd, wfd), m)
  | .spawn req => m.spawnForShell req
  | .waitFor pid => m.waitForShell pid
  | .childSignalPending => (m.childSignal, { m with childSignal := false })
  | .sweep => m.sweepForShell
  | .groupOf pid =>
    match m.proc? pid with
    | some p => (.ok p.pgid, m)
    | none => (.error .srch, m)
  | .signalGroup pgid sig => m.signalGroupForShell pgid sig
  | .currentDir => (.ok m.shellCwd, m)
  | .changeDir path => m.changeDirForShell path
  | .environment => (m.env, m)

/-- Runs a shell program against the machine. -/
def runShell {α : Type} (x : Sys α) (m : Machine) : α × Machine :=
  (Sys.run (m := StateM Machine) (fun c s => s.answer c) x).run m

end Machine

end JobControl.Host
