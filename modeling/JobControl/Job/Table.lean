import JobControl.Job.Basic

/-!
# The job table

The shell's jobs, kept in increasing order of their numbers, with the number the next job gets
and the most jobs the table holds. Numbers start at 1 and grow by one per job added; the counter
is a 32-bit word, so after 2^32 - 1 jobs it wraps to 0, and a job added under a number in use
replaces the job that had it.

* `insert`: adds a job, or refuses when the table is full.
* `findById`, `findByGroup`, `findByMember`, `current`, `currentStopped`: look-ups; a group or a
  process names the lowest-numbered job that has it.
* `setStatus`: gives a job a status; `mark`: records an event of one member.
* `pruneDone`: drops the jobs whose status is done.

`setStatus` and `mark` return a notice: done when the job leaves the table, stopped when it
becomes stopped from another status, none otherwise.
-/

namespace JobControl

/-- Why a job cannot be added. -/
structure TableFull where
  capacity : Nat
  deriving DecidableEq, Repr

/-- The diagnostic for a full table. -/
def TableFull.message (e : TableFull) : String :=
  "job table full (" ++ toString e.capacity ++ " jobs)"

namespace Job

/-- Gives the members that have not exited the state of a status. -/
def settle (j : Job) (status : Job.Status) : Job :=
  match status with
  | .done => j
  | s => { j with members := j.members.map fun m =>
      if m.state = .exited then m else { m with state := .ofStatus s } }

/-- Sets the state of the first member with a pid. -/
def markMember (j : Job) (pid : Pid) (state : Member.State) : Job :=
  { j with members := go j.members }
where
  go : List Member → List Member
    | [] => []
    | m :: ms => if m.pid = pid then { m with state := state } :: ms else m :: go ms

end Job

/-- The jobs of a shell. -/
structure Table where
  jobs : List Job
  nextId : UInt32
  capacity : Nat
  deriving DecidableEq, Repr

namespace Table

/-- The default number of jobs a table holds. -/
def defaultCapacity : Nat := 20

/-- An empty table that holds `capacity` jobs. -/
def withCapacity (capacity : Nat) : Table :=
  ⟨[], 1, capacity⟩

/-- An empty table of the default size. -/
def empty : Table :=
  withCapacity defaultCapacity

/-- The number of jobs. -/
def size (t : Table) : Nat :=
  t.jobs.length

/-! ## Look-ups -/

/-- The job with a number. -/
def findById (t : Table) (id : JobId) : Option Job :=
  t.jobs.find? (·.id = id)

/-- The lowest-numbered job of a process group. -/
def findByGroup (t : Table) (pgid : Pid) : Option Job :=
  t.jobs.find? (·.pgid = pgid)

/-- The lowest-numbered job that has the process as a member, exited members included. -/
def findByMember (t : Table) (pid : Pid) : Option Job :=
  t.jobs.find? (·.hasMember pid)

/-- The highest-numbered job. -/
def current (t : Table) : Option Job :=
  t.jobs.getLast?

/-- The highest-numbered stopped job. -/
def currentStopped (t : Table) : Option Job :=
  t.jobs.reverse.find? (·.status = .stopped)

/-- The lines `jobs` prints, in order of job number. -/
def infos (t : Table) : List String :=
  t.jobs.map Job.info

/-! ## Adding and removing -/

/-- Puts a job in number order, in place of a job with the same number. -/
def place (j : Job) : List Job → List Job
  | [] => [j]
  | k :: ks =>
    if j.id.val < k.id.val then j :: k :: ks
    else if j.id = k.id then j :: ks
    else k :: place j ks

/-- Adds a job under the next number. Without members it gets one: the group leader, in the
state the status gives. A full table is left as it is. -/
def insert (t : Table) (pgid : Pid) (status : Job.Status) (command : String)
    (isPipeline : Bool) (members : List Member) : Except TableFull (JobId × Table) :=
  if t.capacity ≤ t.size then .error ⟨t.capacity⟩
  else
    let members := if members.isEmpty then [⟨pgid, .ofStatus status⟩] else members
    let id : JobId := ⟨t.nextId⟩
    .ok (id, { t with
      jobs := place ⟨id, pgid, status, command, isPipeline, members⟩ t.jobs
      nextId := t.nextId + 1 })

/-- Drops the jobs whose status is done, and says how many there were. -/
def pruneDone (t : Table) : Nat × Table :=
  let kept := t.jobs.filter (·.status ≠ .done)
  (t.jobs.length - kept.length, { t with jobs := kept })

/-! ## Changes of status -/

/-- Applies a change to the job with a number. -/
def update (t : Table) (id : JobId) (f : Job → Job) : Table :=
  { t with jobs := t.jobs.map fun j => if j.id = id then f j else j }

/-- Takes the job with a number out. -/
def remove (t : Table) (id : JobId) : Table :=
  { t with jobs := t.jobs.filter (·.id ≠ id) }

/-- Moves the job `j` (which is in the table) to a status: done takes it out with a done
notice; stopped gives a stopped notice when it was not stopped before; running gives none. -/
def transition (t : Table) (j : Job) (status : Job.Status) : Option Notice × Table :=
  match status with
  | .done => (some (.ofJob j .done), t.remove j.id)
  | .stopped =>
    let t' := t.update j.id fun k => { k with status := .stopped }
    (if j.status = .stopped then none else some (.ofJob { j with status := .stopped } .stopped), t')
  | .running => (none, t.update j.id fun k => { k with status := .running })

/-- Gives the lowest-numbered job of a group a status; live members follow it unless the status
is done. -/
def setStatus (t : Table) (pgid : Pid) (status : Job.Status) : Option Notice × Table :=
  match t.findByGroup pgid with
  | none => (none, t)
  | some j =>
    let j' := j.settle status
    (t.update j.id fun _ => j').transition j' status

/-- Records an event of one process of a group: the member takes the event's state and the job
the status its members imply. A pid that is no member stands for the whole group. -/
def mark (t : Table) (pgid : Pid) (pid : Pid) (event : Member.Event) : Option Notice × Table :=
  match t.findByGroup pgid with
  | none => (none, t)
  | some j =>
    if j.hasMember pid then
      let j' := j.markMember pid event.state
      (t.update j.id fun _ => j').transition j' j'.derivedStatus
    else t.setStatus pgid event.status

end Table

end JobControl
