import JobControl.Shell.Reap
import JobControl.Shell.Outcome
import JobControl.Resolve
import JobControl.Line.Pipeline

/-!
# Launching a line

A line that names no builtin is run as programs:

1. its input file is opened, then its output file (created with mode 0644, truncated unless
   appended to); a failure abandons the line with nothing started;
2. the stages are started left to right in one new process group, led by the first stage that
   starts; each stage reads the previous stage's pipe (the first one the input file) and writes a
   new pipe (the last one the output file). A program that is not found counts as a stage that
   ended with status 127, one that cannot be executed for another reason with 126, each with a
   diagnostic; running out of processes or memory abandons the line;
3. a background line is entered in the table with its started stages running and acknowledged
   as `[id] pgid`; a foreground line is waited for stage by stage, and if a stage stopped, the
   line is entered in the table as a stopped job and its notice printed.

The status is that of the last stage (for a stage not started, its 127 or 126), and 0 for a
background line with a started stage.
-/

namespace JobControl

open Sys

/-- Why a line could not be launched. -/
inductive LaunchError
  | redirect (path : String) (e : IoError)
  | pipe (e : Errno)
  | spawn (program : String) (e : IoError)
  | wait (e : Errno)
  deriving DecidableEq, Repr

/-- The diagnostic for a failed launch. -/
def LaunchError.message : LaunchError → String
  | .redirect path e => path ++ ": " ++ e.render
  | .pipe e => "pipe: " ++ e.render
  | .spawn program e => program ++ ": " ++ e.render
  | .wait e => "waitpid: " ++ e.render

/-- What became of one stage: a started process, or the status of a stage that did not start. -/
inductive Started
  | spawned (pid : Pid)
  | failed (status : Int32)
  deriving DecidableEq, Repr

/-- The status of a stage whose program was not found. -/
def statusNotFound : Int32 := 127

/-- The status of a stage whose program could not be executed. -/
def statusNotExecutable : Int32 := 126

namespace Launch

/-- The pid of the first started stage, which leads the group. -/
def leader? : List Started → Option Pid
  | [] => none
  | .spawned pid :: _ => some pid
  | .failed _ :: rest => leader? rest

/-- The pids of the started stages, in order. -/
def spawnedPids : List Started → List Pid
  | [] => []
  | .spawned pid :: rest => pid :: spawnedPids rest
  | .failed _ :: rest => spawnedPids rest

/-- The status when no stage started: the last stage's, else 127. -/
def lastFailure (stages : List Started) : Int32 :=
  match stages.getLast? with
  | some (.failed status) => status
  | _ => statusNotFound

/-- Closes a file the shell holds, if there is one. -/
def closeAll : List (Option Handle) → Sys Unit
  | [] => pure ()
  | some h :: rest => do let _ ← Sys.ask (.close h); closeAll rest
  | none :: rest => closeAll rest

/-- The stream a stage gets for an optional file. -/
def stdio : Option Handle → Stdio
  | some h => .handle h
  | none => .inherit

/-- Opens the input file, then the output file. -/
def openRedirects (p : Pipeline) : Sys (Except LaunchError (Option Handle × Option Handle)) := do
  let input : Except LaunchError (Option Handle) ← match p.input with
    | none => pure (.ok none)
    | some path => do
      match ← Sys.ask (.openRead path) with
      | .ok h => pure (.ok (some h))
      | .error e => pure (.error (LaunchError.redirect path e))
  match input with
  | .error e => return .error e
  | .ok input =>
    match p.output with
    | none => return .ok (input, none)
    | some target =>
      match ← Sys.ask (.openWrite target.path target.append) with
      | .ok h => return .ok (input, some h)
      | .error e =>
        closeAll [input]
        return .error (.redirect target.path e)

/-- The path a stage's program runs from. -/
def locate (sh : Shell) (name : String) : Sys String := do
  let env ← Sys.ask .environment
  Resolve.program (fun p => Sys.ask (.isExecutable p)) name sh.config.auxDir
    ((env.get? "PATH").getD "")

/-- Whether a failed start means the system is out of processes or memory. -/
def isExhaustion : IoError → Bool
  | .os .again => true
  | .os .nomem => true
  | _ => false

/-- Starts one stage in the leader's group (a new group without a leader). -/
def spawnStage (sh : Shell) (stage : Stage) (stdin stdout : Stdio) (leader : Option Pid) :
    Sys (Except LaunchError (Started × Shell)) := do
  let program ← locate sh stage.program
  let req : SpawnRequest := ⟨program, stage.program, stage.args, stdin, stdout, leader⟩
  match ← Sys.ask (.spawn req) with
  | .ok pid => return .ok (.spawned pid, sh)
  | .error e =>
    if isExhaustion e then return .error (.spawn stage.program e)
    else if e.isNotFound then
      return .ok (.failed statusNotFound, sh.report (stage.program ++ ": command not found"))
    else
      return .ok (.failed statusNotExecutable, sh.report (stage.program ++ ": " ++ e.render))

/-- Starts the stages after the first ones: `upstream` is the read end of the previous pipe,
`output` the file the last stage writes. -/
def spawnRest (sh : Shell) (upstream : Option Handle) (output : Option Handle)
    (leader : Option Pid) : List Stage → Sys (Except LaunchError (List Started × Shell))
  | [] => do
    closeAll [upstream, output]
    return .ok ([], sh)
  | [stage] => do
    match ← spawnStage sh stage (stdio upstream) (stdio output) leader with
    | .error e => return .error e
    | .ok (s, sh) => return .ok ([s], sh)
  | stage :: rest => do
    match ← Sys.ask .pipe with
    | .error e =>
      closeAll [upstream, output]
      return .error (.pipe e)
    | .ok (readEnd, writeEnd) =>
      match ← spawnStage sh stage (stdio upstream) (.handle writeEnd) leader with
      | .error e =>
        closeAll [some readEnd, output]
        return .error e
      | .ok (s, sh) =>
        let leader := leader.or (leader? [s])
        match ← spawnRest sh (some readEnd) output leader rest with
        | .error e => return .error e
        | .ok (ss, sh) => return .ok (s :: ss, sh)

/-- Enters a background line in the table and acknowledges it. -/
def registerBackground (sh : Shell) (stages : List Started) (command : String)
    (isPipeline : Bool) : LaunchOutcome × Shell :=
  match leader? stages with
  | none => (.completed (lastFailure stages), sh)
  | some pgid =>
    let members := (spawnedPids stages).map fun pid => (⟨pid, .running⟩ : Member)
    match sh.jobs.insert pgid .running command isPipeline members with
    | .ok (id, t) =>
      (.background (some id) pgid,
        { sh with jobs := t }.print ("[" ++ id.toString ++ "] " ++ toString pgid.toInt))
    | .error e => (.background none pgid, sh.report e.message)

/-- Waits for each started stage in order: the status of the last stage, the members with the
state each ended in, and whether one stopped. -/
def waitStages : List Started → Int32 → List Member → Bool →
    Sys (Except LaunchError (Int32 × List Member × Bool))
  | [], status, members, stopped => pure (.ok (status, members, stopped))
  | .failed code :: rest, _, members, stopped => waitStages rest code members stopped
  | .spawned pid :: rest, _, members, stopped => do
    match ← Sys.ask (.waitFor pid) with
    | .error e => return .error (.wait e)
    | .ok result =>
      let state : Member.State := if result.isStopped then .stopped else .exited
      waitStages rest result.status (members ++ [⟨pid, state⟩]) (stopped || result.isStopped)

/-- Waits for a foreground line; a line with a stopped stage becomes a stopped job. -/
def waitForeground (sh : Shell) (stages : List Started) (command : String) (isPipeline : Bool) :
    Sys (Except LaunchError (LaunchOutcome × Shell)) := do
  match leader? stages with
  | none => return .ok (.completed (lastFailure stages), sh)
  | some pgid =>
    match ← waitStages stages 0 [] false with
    | .error e => return .error e
    | .ok (status, members, stopped) =>
      if !stopped then return .ok (.completed status, sh)
      match sh.jobs.insert pgid .stopped command isPipeline members with
      | .ok (id, t) =>
        let sh := { sh with jobs := t }
        let sh := match t.findById id with
          | some j => sh.notify (.ofJob j .stopped)
          | none => sh
        return .ok (.stopped (some id) status, sh)
      | .error e =>
        let sh := sh.report e.message
        let _ ← Sys.ask (.signalGroup pgid sigcont)
        return .ok (.stopped none status, sh)

end Launch

open Launch in
/-- Launches a parsed line; `command` is the line as the job table shows it. -/
def Shell.launch (sh : Shell) (p : Pipeline) (command : String) :
    Sys (Except LaunchError (LaunchOutcome × Shell)) := do
  match ← openRedirects p with
  | .error e => return .error e
  | .ok (input, output) =>
    let started : Except LaunchError (List Started × Shell) ← match p.rest with
      | [] => do
        match ← spawnStage sh p.first (stdio input) (stdio output) none with
        | .error e => pure (.error e)
        | .ok (s, sh) => pure (.ok ([s], sh))
      | _ => spawnRest sh input output none p.stages
    match started with
    | .error e => return .error e
    | .ok (stages, sh) =>
      if p.background then return .ok (registerBackground sh stages command p.isPipeline)
      else waitForeground sh stages command p.isPipeline

end JobControl
