import JobControl.Shell.State

/-!
# Collecting child state changes

Between lines, and before a builtin looks at the table, the shell collects the state changes of
its children that are ready, without blocking, and applies them to the table.

With a signal registration, nothing is asked unless a change was announced since the last
collection. Each report names a pid; the change goes to the group of the lowest-numbered job
that has the pid as a member, else to the group the system gives for the pid, else to a group of
that number. A change of a group no job has is dropped. Exits and kills mark the member exited,
stops stopped, continuations running; other reports and interruptions are skipped.

* `Polled.change?`: the member event a report carries.
* `Table.groupFor`: the group a report is routed to.
* `Table.absorb`: one report applied; `Table.drain`: the whole collection.
-/

namespace JobControl

open Sys

/-- The pid and member event of a report, if it carries one. -/
def Sys.Polled.change? : Polled → Option (Pid × Member.Event)
  | .exited pid _ => some (pid, .exited)
  | .signaled pid _ => some (pid, .exited)
  | .stopped pid _ => some (pid, .stopped)
  | .continued pid => some (pid, .continued)
  | .other => none
  | .interrupted => none

namespace Table

/-- The process group a change of `pid` belongs to. -/
def groupFor (t : Table) (pid : Pid) : Sys Pid :=
  match t.findByMember pid with
  | some j => pure j.pgid
  | none => do
    match ← Sys.ask (.groupOf pid) with
    | .ok g => pure g
    | .error _ => pure pid

/-- Applies one report, adding its notice to those gathered so far. -/
def absorb (acc : Table × List Notice) (p : Polled) : Sys (Table × List Notice) :=
  match p.change? with
  | none => pure acc
  | some (pid, event) => do
    let g ← acc.1.groupFor pid
    match acc.1.findByGroup g with
    | none => pure acc
    | some _ =>
      let (n, t') := acc.1.mark g pid event
      pure (t', acc.2 ++ n.toList)

/-- Collects the ready child changes and applies them in the order reported. -/
def drain (t : Table) (registered : Bool) : Sys (Table × List Notice) := do
  if registered then
    if !(← Sys.ask .childSignalPending) then return (t, [])
  let sweep ← Sys.ask .sweep
  sweep.reports.foldlM absorb (t, [])

end Table

/-- Collects child changes into the table and prints their notices. -/
def Shell.reap (sh : Shell) : Sys Shell := do
  let (t, ns) ← sh.jobs.drain sh.registered
  return { sh with jobs := t }.notifyAll ns

end JobControl
