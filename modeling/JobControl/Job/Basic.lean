import JobControl.Job.Id

/-!
# Jobs

A job is the process group started by one command line. It has a number, the group id, the
line as typed, whether it was a pipeline, and its members: the processes of the group with the
state last seen for each.

* `Job.derivedStatus`: done when every member has exited, else stopped when some member is
  stopped, else running.
* `Job.livePids`: the members that have not exited, in order.
* `Job.info`: the line that `jobs` prints, `[id]<TAB><Status><TAB><TAB><command>`.
* `Notice`: what the shell prints when a job finishes, stops or is continued.
-/

namespace JobControl

/-- A process or process-group id. -/
abbrev Pid := Int32

namespace Job

/-- The status of a job as a whole. -/
inductive Status
  | running
  | stopped
  | done
  deriving DecidableEq, Repr

/-- The word by which a status is printed. -/
def Status.name : Status → String
  | .running => "Running"
  | .stopped => "Stopped"
  | .done => "Done"

end Job

namespace Member

/-- The state last seen of one process. -/
inductive State
  | running
  | stopped
  | exited
  deriving DecidableEq, Repr

/-- The word by which a state is printed. -/
def State.name : State → String
  | .running => "Running"
  | .stopped => "Stopped"
  | .exited => "Exited"

/-- The state a job status gives to the members that have not exited. -/
def State.ofStatus : Job.Status → State
  | .running => .running
  | .stopped => .stopped
  | .done => .exited

/-- A change of one process, as the system reports it. -/
inductive Event
  | exited
  | stopped
  | continued
  deriving DecidableEq, Repr

/-- The word by which an event is named. -/
def Event.name : Event → String
  | .exited => "Exited"
  | .stopped => "Stopped"
  | .continued => "Continued"

/-- The state a process is in after the event. -/
def Event.state : Event → State
  | .exited => .exited
  | .stopped => .stopped
  | .continued => .running

/-- The status a whole job takes when the event happens to all of it. -/
def Event.status : Event → Job.Status
  | .exited => .done
  | .stopped => .stopped
  | .continued => .running

end Member

/-- One process of a job. -/
structure Member where
  pid : Pid
  state : Member.State
  deriving DecidableEq, Repr

/-- A job of the table. -/
structure Job where
  id : JobId
  pgid : Pid
  status : Job.Status
  command : String
  isPipeline : Bool
  members : List Member
  deriving DecidableEq, Repr

namespace Job

/-- The status that the members' states imply. -/
def derivedStatus (j : Job) : Status :=
  if j.members.all (·.state = .exited) then .done
  else if j.members.any (·.state = .stopped) then .stopped
  else .running

/-- The pids of the members that have not exited, in member order. -/
def livePids (j : Job) : List Pid :=
  (j.members.filter (·.state ≠ .exited)).map (·.pid)

/-- Whether `pid` is one of the members, exited or not. -/
def hasMember (j : Job) (pid : Pid) : Bool :=
  j.members.any (·.pid = pid)

/-- The line printed for a job by `jobs`. -/
def info (j : Job) : String :=
  "[" ++ j.id.toString ++ "]\t" ++ j.status.name ++ "\t\t" ++ j.command

end Job

namespace Notice

/-- What happened to a job. -/
inductive Kind
  | done
  | stopped
  | continued
  deriving DecidableEq, Repr

/-- The word by which a kind is named. -/
def Kind.name : Kind → String
  | .done => "Done"
  | .stopped => "Stopped"
  | .continued => "Continued"

end Notice

/-- A report about a job, carrying its number and command line. -/
structure Notice where
  id : JobId
  kind : Notice.Kind
  command : String
  deriving DecidableEq, Repr

namespace Notice

/-- The notice of a kind for a job. -/
def ofJob (j : Job) (kind : Kind) : Notice :=
  ⟨j.id, kind, j.command⟩

/-- The printed form: `[id]+`, the kind, then the command; "Continued" is followed by one tab,
the shorter words by two. -/
def render (n : Notice) : String :=
  let gap := match n.kind with
    | .continued => "\t"
    | _ => "\t\t"
  "[" ++ n.id.toString ++ "]+\t" ++ n.kind.name ++ gap ++ n.command

end Notice

end JobControl
