import JobControl.Proofs.Table.Run

/-!
# Jobs agree with their members

A job is coherent when some member has not exited and its status is the one its members imply
(`Job.Coherent`). The launcher only ever registers coherent jobs: a background job running with
every stage running, a stopped foreground job with a stopped stage among stopped or exited ones
(`Op.Launchable`). Then every job of the table stays coherent, whatever groups, pids and events
the other calls name:

* `coherent_of_moveTo`: a job moved to the status its members imply is coherent, unless that
  status is done and the job leaves; this covers `mark` on a member;
* `derivedStatus_settle`: `setStatus` gives the live members the state of the status, so the
  members then imply that status;
* `Coherent.apply`, `Coherent.run`: one call, then a whole run;
* `coherent_run_of_launchable`: in every run from an empty table, every job has a member that has
  not exited and the status its members imply, so none is done and `pruneDone` never finds one.
-/

namespace JobControl

/-- The status a list of members implies: done when all have exited, else stopped when one is
stopped, else running. -/
def Member.impliedStatus (ms : List Member) : Job.Status :=
  if ms.all (·.state = .exited) then .done
  else if ms.any (·.state = .stopped) then .stopped
  else .running

namespace Job

theorem derivedStatus_eq_impliedStatus (j : Job) :
    j.derivedStatus = Member.impliedStatus j.members := rfl

/-- A job that agrees with its members: one of them has not exited, and the status is the one
they imply. -/
structure Coherent (j : Job) : Prop where
  alive : ∃ m ∈ j.members, m.state ≠ .exited
  status_eq : j.status = j.derivedStatus

theorem derivedStatus_ne_done_iff (j : Job) :
    j.derivedStatus ≠ .done ↔ ∃ m ∈ j.members, m.state ≠ .exited := by
  unfold derivedStatus
  by_cases hall : j.members.all (·.state = .exited)
  · simp only [hall, if_true, ne_eq, not_true_eq_false, false_iff, not_exists, not_and,
      Decidable.not_not]
    simpa using hall
  · simp only [hall, Bool.false_eq_true, if_false, ne_eq]
    simp only [List.all_eq_true, decide_eq_true_eq, not_forall] at hall
    obtain ⟨m, hm, hne⟩ := hall
    refine ⟨fun _ => ⟨m, hm, hne⟩, fun _ => ?_⟩
    split <;> simp

theorem Coherent.status_ne_done {j : Job} (h : j.Coherent) : j.status ≠ .done := by
  rw [h.status_eq]
  exact (derivedStatus_ne_done_iff j).mpr h.alive

theorem Coherent.members_ne_nil {j : Job} (h : j.Coherent) : j.members ≠ [] := by
  obtain ⟨m, hm, -⟩ := h.alive
  exact List.ne_nil_of_mem hm

/-- Moving a job to the status its members imply leaves a coherent job, if any. -/
theorem coherent_of_moveTo {j k : Job} (hk : j.moveTo j.derivedStatus = some k) : k.Coherent := by
  obtain ⟨hne, rfl⟩ := eq_of_moveTo_eq_some hk
  exact ⟨(derivedStatus_ne_done_iff j).mp hne, rfl⟩

/-- Settling keeps a member that has not exited from exiting. -/
theorem settle_not_all_exited {j : Job} {m : Member} (hm : m ∈ j.members)
    (hlive : m.state ≠ .exited) (s : Status) : ¬ (j.settle s).members.all (·.state = .exited) := by
  cases s <;>
    simp only [settle, List.all_map, List.all_eq_true, Function.comp_apply, decide_eq_true_eq,
      not_forall] <;>
    exact ⟨m, hm, by simp [hlive, Member.State.ofStatus]⟩

/-- After `settle` to running or stopped, a job with a live member implies that status: the live
members all have its state, and the exited ones are neither running nor stopped. -/
theorem derivedStatus_settle {j : Job} (halive : ∃ m ∈ j.members, m.state ≠ .exited)
    {s : Status} (hs : s ≠ .done) : (j.settle s).derivedStatus = s := by
  obtain ⟨m, hm, hlive⟩ := halive
  cases s with
  | done => exact absurd rfl hs
  | stopped =>
      have hstop : (j.settle .stopped).members.any (·.state = .stopped) := by
        simp only [settle, List.any_map, List.any_eq_true, Function.comp_apply,
          decide_eq_true_eq]
        exact ⟨m, hm, by simp [hlive, Member.State.ofStatus]⟩
      simp [derivedStatus, settle_not_all_exited hm hlive, hstop]
  | running =>
      have hnone : ¬ (j.settle .running).members.any (·.state = .stopped) := by
        simp only [settle, List.any_map, List.any_eq_true, Function.comp_apply,
          decide_eq_true_eq, not_exists, not_and]
        intro k _
        split <;> simp_all [Member.State.ofStatus]
      simp only [derivedStatus, settle_not_all_exited hm hlive, hnone, Bool.false_eq_true, if_false]

theorem coherent_settle {j k : Job} (hj : j.Coherent) {s : Status}
    (hk : (j.settle s).moveTo s = some k) : k.Coherent := by
  have hs := (eq_of_moveTo_eq_some hk).1
  have hk' : (j.settle s).moveTo (j.settle s).derivedStatus = some k := by
    rwa [derivedStatus_settle hj.alive hs]
  exact coherent_of_moveTo hk'

/-- The job an insert adds is coherent when it is running or stopped and its members, if given,
imply that status. -/
theorem coherent_enrol {id : JobId} {pgid : Pid} {status : Status} {command : String}
    {isPipeline : Bool} {members : List Member} (hs : status ≠ .done)
    (hm : members = [] ∨ Member.impliedStatus members = status) :
    (enrol id pgid status command isPipeline members).Coherent := by
  rcases hm with rfl | hm
  · refine ⟨⟨⟨pgid, .ofStatus status⟩, by simp [enrol], ?_⟩, ?_⟩
    · cases status <;> simp_all [Member.State.ofStatus]
    · cases status <;> simp_all [enrol, derivedStatus, Member.State.ofStatus]
  · have hne : members ≠ [] := by
      rintro rfl
      exact hs (by simpa [Member.impliedStatus] using hm.symm)
    have hmembers : (enrol id pgid status command isPipeline members).members = members := by
      simp [enrol, hne]
    have hderived : (enrol id pgid status command isPipeline members).derivedStatus = status := by
      rw [derivedStatus_eq_impliedStatus, hmembers, hm]
    refine ⟨?_, hderived.symm⟩
    rw [← derivedStatus_ne_done_iff, hderived]
    exact hs

end Job

namespace Table

/-- Every job of the table is coherent. -/
def Coherent (t : Table) : Prop :=
  ∀ j ∈ t.jobs, j.Coherent

/-- An insert of the kind the launcher makes: running or stopped, with no members or with
members that imply that status. Every other call may carry anything. -/
def Op.Launchable : Op → Prop
  | .insert _ status _ _ members =>
    status ≠ .done ∧ (members = [] ∨ Member.impliedStatus members = status)
  | _ => True

theorem Coherent.replace {t : Table} (ht : t.Coherent) {id : JobId} {o : Option Job}
    (ho : ∀ k, o = some k → k.Coherent) : (t.replace id o).Coherent := by
  intro k hk
  rcases mem_replace.mp hk with ⟨hk, -⟩ | ⟨hok, -⟩
  · exact ht k hk
  · exact ho k hok

theorem Coherent.setStatus {t : Table} (ht : t.Coherent) (g : Pid) (s : Job.Status) :
    (t.setStatus g s).2.Coherent := by
  cases h : t.findByGroup g with
  | none => rwa [setStatus_of_findByGroup_none h]
  | some j =>
      rw [setStatus_of_findByGroup h]
      exact ht.replace fun k hk => Job.coherent_settle (ht j (findByGroup_mem h).1) hk

theorem Coherent.mark {t : Table} (ht : t.Coherent) (g pid : Pid) (e : Member.Event) :
    (t.mark g pid e).2.Coherent := by
  cases h : t.findByGroup g with
  | none => rwa [mark_of_findByGroup_none h]
  | some j =>
      cases hm : j.hasMember pid
      · rw [mark_of_not_member h hm]
        exact ht.setStatus g e.status
      · rw [mark_of_member h hm]
        exact ht.replace fun k hk => Job.coherent_of_moveTo hk

theorem Coherent.apply {t : Table} (ht : t.Coherent) {op : Op} (hop : op.Launchable) :
    (op.apply t).2.Coherent := by
  cases op with
  | insert pgid status command isPipeline members =>
      rw [apply_insert]
      split
      · exact ht
      · intro k hk
        rcases mem_place_of_mem hk with rfl | hk
        · exact Job.coherent_enrol hop.1 hop.2
        · exact ht k hk
  | setStatus g s => exact ht.setStatus g s
  | mark g pid e => exact ht.mark g pid e
  | pruneDone => exact fun k hk => ht k (mem_pruneDone.mp hk).1

theorem Coherent.run {t : Table} (ht : t.Coherent) {ops : List Op}
    (hops : ∀ op ∈ ops, op.Launchable) : (t.run ops).Coherent := by
  induction ops generalizing t with
  | nil => exact ht
  | cons op ops ih =>
      exact ih (ht.apply (hops op List.mem_cons_self))
        (fun op' hop' => hops op' (List.mem_cons_of_mem op hop'))

/-- Along every launcher-made run each job has a live member and the status its members imply, so
`pruneDone` removes nothing. -/
theorem coherent_run_of_launchable (c : Nat) (ops : List Op) (hops : ∀ op ∈ ops, op.Launchable) :
    (∀ j ∈ (run (withCapacity c) ops).jobs, j.members ≠ [] ∧
      (∃ m ∈ j.members, m.state ≠ .exited) ∧ j.status = j.derivedStatus ∧ j.status ≠ .done) ∧
    (run (withCapacity c) ops).pruneDone.1 = 0 := by
  have hco : (run (withCapacity c) ops).Coherent :=
    Coherent.run (fun _ hj => absurd hj List.not_mem_nil) hops
  refine ⟨fun j hj => ⟨(hco j hj).members_ne_nil, (hco j hj).alive, (hco j hj).status_eq,
    (hco j hj).status_ne_done⟩, ?_⟩
  exact pruneDone_fst_eq_zero fun j hj => (hco j hj).status_ne_done

/-- A launcher-made run with a stop and two continuations keeps its jobs coherent. -/
theorem coherent_after_stop_and_continue :
    (∀ op ∈ [Op.insert 10 .running "a | b" true [⟨10, .running⟩, ⟨11, .running⟩],
        Op.insert 20 .stopped "vim" false [⟨20, .stopped⟩, ⟨21, .exited⟩],
        Op.mark 10 11 .stopped, Op.setStatus 20 .running, Op.mark 10 11 .continued, Op.pruneDone],
      op.Launchable) ∧
    ((∀ j ∈ (run (withCapacity 20) [Op.insert 10 .running "a | b" true [⟨10, .running⟩, ⟨11, .running⟩],
        Op.insert 20 .stopped "vim" false [⟨20, .stopped⟩, ⟨21, .exited⟩],
        Op.mark 10 11 .stopped, Op.setStatus 20 .running, Op.mark 10 11 .continued,
        Op.pruneDone]).jobs, j.members ≠ [] ∧ (∃ m ∈ j.members, m.state ≠ .exited) ∧
        j.status = j.derivedStatus ∧ j.status ≠ .done) ∧
      (run (withCapacity 20) [Op.insert 10 .running "a | b" true [⟨10, .running⟩, ⟨11, .running⟩],
        Op.insert 20 .stopped "vim" false [⟨20, .stopped⟩, ⟨21, .exited⟩],
        Op.mark 10 11 .stopped, Op.setStatus 20 .running, Op.mark 10 11 .continued,
        Op.pruneDone]).pruneDone.1 = 0) := by
  have hops : ∀ op ∈ [Op.insert 10 .running "a | b" true [⟨10, .running⟩, ⟨11, .running⟩],
      Op.insert 20 .stopped "vim" false [⟨20, .stopped⟩, ⟨21, .exited⟩],
      Op.mark 10 11 .stopped, Op.setStatus 20 .running, Op.mark 10 11 .continued, Op.pruneDone],
      op.Launchable := by
    simp [Op.Launchable, Member.impliedStatus]
  exact ⟨hops, coherent_run_of_launchable 20 _ hops⟩

end Table

end JobControl
