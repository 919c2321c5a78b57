import JobControl.Proofs.Shell.Resuming

/-!
# Listing the jobs

`jobs` collects what the children reported, drops the jobs that are done, and prints one line
per job left, `[id]<TAB><Status><TAB><TAB><command>`, in the order of the table. The statements
here are about runs in which that collection reports no change (`Trace.Uneventful`), so that the
builtin works on the table it was given.

* `pruneDone_fst_eq_count`, `pruneDone_fst_add_size`: the count `pruneDone` returns is the number
  of done jobs, and with the jobs left it makes up the table, so its subtraction never truncates;
* `Shell.foldl_print`: lines printed one after the other are appended, each with its newline, and
  nothing else changes;
* `listJobs_of_uneventful`: what `jobs` does after a collection that reports no change;
* `jobs_lists_jobs_left`: on a table kept in number order, the listing is the jobs left, in
  increasing order of number.
-/

namespace JobControl

open Sys

namespace Table

/-- The number `pruneDone` returns is the number of done jobs. -/
theorem pruneDone_fst_eq_count (t : Table) :
    t.pruneDone.1 = (t.jobs.filter (·.status = .done)).length := by
  have hsplit := List.length_eq_length_filter_add (l := t.jobs) fun j => decide (j.status = .done)
  have hnot : (t.jobs.filter fun j => !decide (j.status = .done)) =
      t.jobs.filter (·.status ≠ .done) := by
    simp
  rw [hnot] at hsplit
  simp only [pruneDone]
  omega

/-- The jobs dropped and the jobs left make up the table. -/
theorem pruneDone_fst_add_size (t : Table) : t.pruneDone.1 + t.pruneDone.2.size = t.size := by
  have hle : (t.jobs.filter (·.status ≠ .done)).length ≤ t.jobs.length :=
    List.length_filter_le _ _
  simp only [pruneDone, size]
  omega

end Table

/-- Lines printed one after the other are appended, each with its newline; nothing else of the
shell changes. -/
theorem Shell.foldl_print (sh : Shell) (lines : List String) :
    lines.foldl Shell.print sh =
      { sh with out := sh.out ++ String.join (lines.map (· ++ "\n")) } := by
  induction lines generalizing sh with
  | nil => simp
  | cons line lines ih =>
    rw [List.foldl_cons, ih]
    simp [Shell.print, String.append_assoc]

namespace Builtin

/-- After a collection that reports no change, `jobs` drops the done jobs, prints the line of
each job left and returns 0. -/
theorem listJobs_of_uneventful {sh : Shell} {tr : Trace} {r : BuiltinOutcome × Shell}
    (h : Yields (listJobs sh) tr r) (hq : tr.Uneventful) :
    r = (.proceed 0, { sh with
      jobs := sh.jobs.pruneDone.2
      out := sh.out ++ String.join (sh.jobs.pruneDone.2.infos.map (· ++ "\n")) }) := by
  unfold listJobs at h
  obtain ⟨tr', h', -, -⟩ := reap_bind_of_uneventful h hq
  obtain ⟨rfl, rfl⟩ := yields_pure_iff.mp h'
  rw [Shell.foldl_print]
  rfl

/-- `jobs` drops exactly the done jobs, counts them, and prints the line of each job left in
increasing order of number. -/
theorem jobs_lists_jobs_left {sh : Shell} (hs : sh.jobs.Sorted) (args : List String)
    {tr : Trace} {r : BuiltinOutcome × Shell} (h : Yields (run .jobs args sh) tr r)
    (hq : tr.Uneventful) :
    r.1 = .proceed 0 ∧
      r.2 = { sh with
        jobs := { sh.jobs with jobs := sh.jobs.jobs.filter (·.status ≠ .done) }
        out := sh.out ++ String.join ((sh.jobs.jobs.filter (·.status ≠ .done)).map fun j =>
          "[" ++ j.id.toString ++ "]\t" ++ j.status.name ++ "\t\t" ++ j.command ++ "\n") } ∧
      r.2.jobs.Sorted ∧
      sh.jobs.pruneDone.1 = (sh.jobs.jobs.filter (·.status = .done)).length ∧
      sh.jobs.pruneDone.1 + r.2.jobs.size = sh.jobs.size ∧
      r.2.out = sh.out ++ String.join (r.2.jobs.infos.map (· ++ "\n")) := by
  have hr := listJobs_of_uneventful h hq
  subst hr
  refine ⟨rfl, ?_, hs.pruneDone, Table.pruneDone_fst_eq_count _, Table.pruneDone_fst_add_size _,
    rfl⟩
  have hline : ∀ j : Job, j.info ++ "\n" =
      "[" ++ j.id.toString ++ "]\t" ++ j.status.name ++ "\t\t" ++ j.command ++ "\n" := by
    simp [Job.info]
  simp only [Table.pruneDone, Table.infos, List.map_map, Function.comp_def, hline]

/-- A table holding a running job and a done one, the done one last: `jobs` drops it and lists
the other. -/
theorem jobs_drops_done_job :
    let sh : Shell := { Shell.start (Config.default ⟨[], none⟩) false false with
      jobs := Table.run (.withCapacity 20)
        [.insert 100 .running "a" false [], .insert 200 .done "b" false []] }
    let run := (Builtin.run .jobs [] sh).runWith allSucceed
    sh.jobs.Sorted ∧ run.1.Uneventful ∧ run.2.1 = .proceed 0 ∧ run.2.2.jobs.ids = [⟨1⟩] ∧
      sh.jobs.pruneDone.1 = 1 ∧ run.2.2.out = "[1]\tRunning\t\ta\n" := by
  intro sh run
  have hs : sh.jobs.Sorted := (Table.sorted_withCapacity 20).run _
  have hq : run.1.Uneventful := Trace.uneventful_runWith rfl _
  obtain ⟨h0, hr, -, hcount, -⟩ :=
    jobs_lists_jobs_left hs [] (yields_runWith allSucceed _).1 hq
  refine ⟨hs, hq, h0, ?_, ?_, ?_⟩
  · rw [hr]
    rfl
  · rw [hcount]
    rfl
  · rw [hr]
    rfl

end Builtin

end JobControl
