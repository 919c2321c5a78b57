import JobControl.Proofs.Table.Coherence

/-!
# One member at a time, or the whole job at once

The reaper and `fg` record the events of a job one member at a time (`mark`); `bg`, `fg` and an
event for a pid that is no member move the whole job at once (`setStatus`). In a table whose jobs
have pairwise different groups and list no pid twice (`Table.Distinct`), the two agree.

* `Job.markMember_members`: marking a member changes that member and no other;
* `Distinct.setStatus`, `Distinct.mark`: both calls keep the groups and the pids distinct;
* `Job.Pending`: what is left while the live members of a job take an event one by one;
* `run_marks_of_pending`: marking what is left moves the job as `setStatus` does, with its notice
  and no other; the steps in between give no notice, since an event that is not a stop never makes
  a job stopped that was not (`Job.status_eq_stopped_of_markMember`);
* `marks_of_live_eq_setStatus`: on every table a launcher-made run reaches, marking every live
  member of a job with one event, in any order, leaves the table and the notices of `setStatus`
  with the event's status.
-/

namespace JobControl

namespace Member.Event

theorem state_eq_ofStatus (e : Event) : e.state = .ofStatus e.status := by
  cases e <;> rfl

theorem state_eq_exited_iff {e : Event} : e.state = .exited ↔ e = .exited := by
  cases e <;> simp [state]

theorem status_eq_done_iff {e : Event} : e.status = .done ↔ e = .exited := by
  cases e <;> simp [status]

end Member.Event

namespace Job

theorem mem_livePids {j : Job} {q : Pid} :
    q ∈ j.livePids ↔ ∃ m ∈ j.members, m.state ≠ .exited ∧ m.pid = q := by
  simp [livePids, and_assoc]

theorem hasMember_of_mem_livePids {j : Job} {q : Pid} (h : q ∈ j.livePids) : j.hasMember q = true := by
  obtain ⟨m, hm, -, rfl⟩ := mem_livePids.mp h
  simpa [hasMember] using ⟨m, hm, rfl⟩

theorem settle_of_ne_done (j : Job) {s : Status} (hs : s ≠ .done) :
    j.settle s = { j with members := j.members.map fun m =>
      if m.state = .exited then m else { m with state := .ofStatus s } } := by
  cases s
  · rfl
  · rfl
  · exact absurd rfl hs

theorem settle_withStatus (j : Job) (x s : Status) :
    ({ j with status := x } : Job).settle s = { j.settle s with status := x } := by
  cases s <;> rfl

theorem moveTo_withStatus (j : Job) (x s : Status) : ({ j with status := x } : Job).moveTo s = j.moveTo s := by
  cases s <;> rfl

theorem pids_settle (j : Job) (s : Status) : (j.settle s).members.map (·.pid) = j.members.map (·.pid) := by
  cases s with
  | done => rfl
  | stopped | running =>
    simp only [settle, List.map_map]
    exact List.map_congr_left fun m _ => by simp only [Function.comp_apply]; split <;> rfl

/-- A job whose live members all have the state of a status is settled already. -/
theorem settle_eq_self {j : Job} {s : Status}
    (h : ∀ m ∈ j.members, m.state ≠ .exited → m.state = .ofStatus s) : j.settle s = j := by
  by_cases hs : s = .done
  · subst hs
    rfl
  rw [settle_of_ne_done j hs]
  have hmembers : (j.members.map fun m =>
      if m.state = .exited then m else { m with state := .ofStatus s }) = j.members := by
    refine (List.map_congr_left fun m hm => ?_).trans (List.map_id _)
    split
    · rfl
    · rename_i hlive
      rw [← h m hm hlive]
      rfl
  rw [hmembers]

/-! ## Marking one member -/

theorem mem_markMember {j : Job} {q : Pid} {st : Member.State} {m : Member}
    (hm : m ∈ (j.markMember q st).members) : m ∈ j.members ∨ m.state = st := by
  obtain ⟨id, pgid, status, command, isPipeline, members⟩ := j
  simp only [markMember] at hm ⊢
  induction members with
  | nil => simp [markMember.go] at hm
  | cons a as ih =>
      simp only [markMember.go] at hm
      split at hm
      · rcases List.mem_cons.mp hm with rfl | hm
        · exact .inr rfl
        · exact .inl (List.mem_cons_of_mem a hm)
      · rcases List.mem_cons.mp hm with rfl | hm
        · exact .inl List.mem_cons_self
        · exact (ih hm).imp_left (List.mem_cons_of_mem a)

theorem exists_mem_markMember {j : Job} {q : Pid} (hq : j.hasMember q = true) (st : Member.State) :
    ∃ m ∈ (j.markMember q st).members, m.pid = q ∧ m.state = st := by
  obtain ⟨id, pgid, status, command, isPipeline, members⟩ := j
  simp only [markMember, hasMember] at hq ⊢
  induction members with
  | nil => simp at hq
  | cons a as ih =>
      simp only [markMember.go]
      split
      · exact ⟨{ a with state := st }, List.mem_cons_self, by assumption, rfl⟩
      · rename_i ha
        have hq : as.any (·.pid = q) = true := by simpa [ha] using hq
        obtain ⟨m, hm, hmq⟩ := ih hq
        exact ⟨m, List.mem_cons_of_mem a hm, hmq⟩

theorem markMember_go_eq_map {q : Pid} {st : Member.State} {ms : List Member}
    (h : (ms.map (·.pid)).Nodup) :
    markMember.go q st ms = ms.map fun m => if m.pid = q then { m with state := st } else m := by
  induction ms with
  | nil => rfl
  | cons m ms ih =>
      rw [List.map_cons, List.nodup_cons] at h
      by_cases hm : m.pid = q
      · -- the first member with the pid is the only one
        have hrest : ∀ m' ∈ ms, (if m'.pid = q then { m' with state := st } else m') = m' :=
          fun m' hm' => if_neg fun h' => h.1 (by rw [hm, ← h']; exact List.mem_map_of_mem hm')
        simp [markMember.go, hm, List.map_congr_left hrest]
      · simp [markMember.go, hm, ih h.2]

/-- With distinct pids, marking a member changes that member and no other. -/
theorem markMember_members {j : Job} (h : (j.members.map (·.pid)).Nodup) (q : Pid)
    (st : Member.State) :
    (j.markMember q st).members =
      j.members.map fun m => if m.pid = q then { m with state := st } else m :=
  markMember_go_eq_map h

theorem pids_markMember {j : Job} (h : (j.members.map (·.pid)).Nodup) (q : Pid) (st : Member.State) :
    (j.markMember q st).members.map (·.pid) = j.members.map (·.pid) := by
  rw [markMember_members h, List.map_map]
  exact List.map_congr_left fun m _ => by simp only [Function.comp_apply]; split <;> rfl

/-- An event that is not a stop never makes a coherent job stopped that was not stopped: a stopped
member after it was a stopped member before. -/
theorem status_eq_stopped_of_markMember {j : Job} (hj : j.Coherent) {q : Pid} {st : Member.State}
    (hst : st ≠ .stopped) (h : (j.markMember q st).derivedStatus = .stopped) : j.status = .stopped := by
  have hstop : (j.markMember q st).members.any (·.state = .stopped) := by
    unfold derivedStatus at h
    split at h
    · cases h
    · split at h
      · assumption
      · cases h
  obtain ⟨m, hm, hmstop⟩ := List.any_eq_true.mp hstop
  have hmstop : m.state = .stopped := by simpa using hmstop
  have hold : m ∈ j.members := (mem_markMember hm).resolve_right (hmstop ▸ Ne.symm hst)
  rw [hj.status_eq]
  unfold derivedStatus
  have hall : ¬ j.members.all (·.state = .exited) := by
    obtain ⟨a, ha, hlive⟩ := hj.alive
    simpa using ⟨a, ha, hlive⟩
  have hany : j.members.any (·.state = .stopped) := List.any_eq_true.mpr ⟨m, hold, by simpa using hmstop⟩
  simp [hall, hany]

theorem derivedStatus_markMember_stopped {j : Job} {q : Pid} (hq : j.hasMember q = true) :
    (j.markMember q .stopped).derivedStatus = .stopped := by
  obtain ⟨m, hm, -, hmstop⟩ := exists_mem_markMember hq .stopped
  have hall : ¬ (j.markMember q .stopped).members.all (·.state = .exited) := by
    simpa using ⟨m, hm, by simp [hmstop]⟩
  have hany : (j.markMember q .stopped).members.any (·.state = .stopped) :=
    List.any_eq_true.mpr ⟨m, hm, by simpa using hmstop⟩
  simp [derivedStatus, hall, hany]

end Job

namespace Notice

theorem ofMove_status_eq_none {j : Job} (h : j.status ≠ .done) : ofMove j j.status = none := by
  cases hs : j.status with
  | running => rfl
  | stopped => simp [ofMove, hs]
  | done => exact absurd hs h

theorem ofJob_withStatus (j : Job) (x : Job.Status) (kind : Kind) :
    ofJob ({ j with status := x } : Job) kind = ofJob j kind := rfl

theorem ofJob_markMember (j : Job) (q : Pid) (st : Member.State) (kind : Kind) :
    ofJob (j.markMember q st) kind = ofJob j kind := rfl

/-- A member's event then the move to its status reports what moving the whole job at once reports. -/
theorem ofMove_markMember_append {j : Job} (hj : j.Coherent) {q : Pid} (hq : j.hasMember q = true)
    (e : Member.Event) (hd : (j.markMember q e.state).derivedStatus ≠ .done) :
    (ofMove j (j.markMember q e.state).derivedStatus).toList ++
      (ofMove { j.markMember q e.state with status := (j.markMember q e.state).derivedStatus }
        e.status).toList = (ofMove j e.status).toList := by
  -- a step that is not a stop reports nothing: the job is stopped already if it comes out stopped
  have hquiet : e ≠ .stopped → ofMove j (j.markMember q e.state).derivedStatus = none := by
    intro he
    cases hs : (j.markMember q e.state).derivedStatus with
    | running => rfl
    | done => exact absurd hs hd
    | stopped =>
        have hst : e.state ≠ .stopped := by cases e <;> simp_all [Member.Event.state]
        simp [ofMove, Job.status_eq_stopped_of_markMember hj hst hs]
  cases e with
  | exited =>
      rw [hquiet (by simp)]
      rfl
  | stopped =>
      have hs : (j.markMember q .stopped).derivedStatus = .stopped := Job.derivedStatus_markMember_stopped hq
      simp only [Member.Event.state, Member.Event.status, hs]
      simp [ofMove]
  | continued =>
      rw [hquiet (by simp)]
      rfl

end Notice

namespace Table

/-- The notices among replies. -/
def Reply.notices : Reply → List Notice
  | .notice n => n.toList
  | _ => []

/-- The jobs have pairwise different groups, and no job lists a pid twice. -/
structure Distinct (t : Table) : Prop where
  pgids : (t.jobs.map (·.pgid)).Nodup
  pids : ∀ j ∈ t.jobs, (j.members.map (·.pid)).Nodup

theorem Distinct.eq_of_pgid_eq {t : Table} (hd : t.Distinct) {j k : Job} (hj : j ∈ t.jobs)
    (hk : k ∈ t.jobs) (h : j.pgid = k.pgid) : j = k :=
  List.inj_on_of_nodup_map hd.pgids hj hk h

/-- With distinct groups, a job's group names that job. -/
theorem findByGroup_of_nodup {t : Table} (hg : (t.jobs.map (·.pgid)).Nodup) {j : Job}
    (hj : j ∈ t.jobs) : t.findByGroup j.pgid = some j := by
  cases h : t.findByGroup j.pgid with
  | none => simpa using List.find?_eq_none.mp h j hj
  | some k =>
      obtain ⟨hk, hpgid⟩ := findByGroup_mem h
      rw [List.inj_on_of_nodup_map hg hk hj hpgid]

theorem Distinct.findByGroup {t : Table} (hd : t.Distinct) {j : Job} (hj : j ∈ t.jobs) :
    t.findByGroup j.pgid = some j :=
  findByGroup_of_nodup hd.pgids hj

/-- Putting a job of a sorted table in its own place changes nothing. -/
theorem replace_self {t : Table} (hs : t.Sorted) {k : Job} (hk : k ∈ t.jobs) :
    t.replace k.id (some k) = t := by
  have hjobs : t.jobs.filterMap (fun x => if x.id = k.id then some k else some x) = t.jobs := by
    refine (List.filterMap_congr fun x hx => ?_).trans List.filterMap_some
    by_cases hxk : x.id = k.id
    · rw [if_pos hxk, hs.eq_of_id_eq hx hk hxk]
    · rw [if_neg hxk]
  simp only [replace, hjobs]

/-- A job put in place of the jobs of its number is replaced by the next move of that number. -/
theorem replace_replace_of_some {t : Table} {id : JobId} {a : Job} (ha : a.id = id) (o : Option Job) :
    (t.replace id (some a)).replace id o = t.replace id o := by
  simp only [replace, List.filterMap_filterMap, Table.mk.injEq, and_true]
  refine List.filterMap_congr fun x _ => ?_
  by_cases hx : x.id = id <;> simp [hx, ha]

/-- Moving a job of a sorted table to one with the same group and pids, or out of the table,
keeps the groups and pids distinct. -/
theorem Distinct.replace {t : Table} (hd : t.Distinct) (hs : t.Sorted) {k : Job} (hk : k ∈ t.jobs)
    {o : Option Job}
    (ho : ∀ a, o = some a → a.pgid = k.pgid ∧ a.members.map (·.pid) = k.members.map (·.pid)) :
    (t.replace k.id o).Distinct where
  pgids := by
    have keep : ∀ x ∈ t.jobs, ∀ y, (if x.id = k.id then o else some x) = some y → y.pgid = x.pgid := by
      intro x hx y hy
      by_cases hxk : x.id = k.id
      · rw [if_pos hxk] at hy
        rw [(ho y hy).1, hs.eq_of_id_eq hx hk hxk]
      · rw [if_neg hxk, Option.some.injEq] at hy
        rw [hy]
    have hpair := List.Pairwise.and_mem.mp (List.pairwise_map.mp hd.pgids)
    refine List.pairwise_map.mpr (hpair.filterMap _ fun a a' ⟨ha, ha', hne⟩ b hb b' hb' => ?_)
    rw [keep a ha b hb, keep a' ha' b' hb']
    exact hne
  pids a ha := by
    rcases mem_replace.mp ha with ⟨ha, -⟩ | ⟨hoa, -⟩
    · exact hd.pids a ha
    · rw [(ho a hoa).2]
      exact hd.pids k hk

theorem Distinct.setStatus {t : Table} (hd : t.Distinct) (hs : t.Sorted) (g : Pid) (s : Job.Status) :
    (t.setStatus g s).2.Distinct := by
  cases h : t.findByGroup g with
  | none => rwa [setStatus_of_findByGroup_none h]
  | some j =>
      rw [setStatus_of_findByGroup h]
      refine hd.replace hs (findByGroup_mem h).1 fun a ha => ?_
      obtain ⟨-, rfl⟩ := Job.eq_of_moveTo_eq_some ha
      exact ⟨Job.settle_pgid j s, Job.pids_settle j s⟩

theorem Distinct.mark {t : Table} (hd : t.Distinct) (hs : t.Sorted) (g pid : Pid) (e : Member.Event) :
    (t.mark g pid e).2.Distinct := by
  cases h : t.findByGroup g with
  | none => rwa [mark_of_findByGroup_none h]
  | some j =>
      have hj := (findByGroup_mem h).1
      cases hm : j.hasMember pid
      · rw [mark_of_not_member h hm]
        exact hd.setStatus hs g e.status
      · rw [mark_of_member h hm]
        refine hd.replace hs hj fun a ha => ?_
        obtain ⟨-, rfl⟩ := Job.eq_of_moveTo_eq_some ha
        exact ⟨rfl, Job.pids_markMember (hd.pids j hj) pid e.state⟩

end Table

/-! ## Marking the live members one by one -/

namespace Job

/-- What is left while the live members of `k` take the event `e` one by one: `qs` are distinct
live members, and every other live member has the event's state already. -/
structure Pending (k : Job) (e : Member.Event) (qs : List Pid) : Prop where
  coherent : k.Coherent
  pids : (k.members.map (·.pid)).Nodup
  nodup : qs.Nodup
  live : ∀ q ∈ qs, q ∈ k.livePids
  settled : ∀ m ∈ k.members, m.state ≠ .exited → m.pid ∉ qs → m.state = e.state

variable {k : Job} {e : Member.Event}

/-- With nothing left, the job already has the event's status, which is not done. -/
theorem Pending.status_eq (hp : k.Pending e []) : e.status ≠ .done ∧ k.status = e.status := by
  obtain ⟨m, hm, hlive⟩ := hp.coherent.alive
  have hne : e.status ≠ .done := by
    intro hdone
    apply hlive
    rw [hp.settled m hm hlive List.not_mem_nil, Member.Event.state_eq_exited_iff]
    exact Member.Event.status_eq_done_iff.mp hdone
  have hsettle : k.settle e.status = k :=
    settle_eq_self fun m hm hlive => by
      rw [hp.settled m hm hlive List.not_mem_nil, Member.Event.state_eq_ofStatus]
  refine ⟨hne, ?_⟩
  rw [hp.coherent.status_eq, ← hsettle]
  exact derivedStatus_settle hp.coherent.alive hne

theorem Pending.settle_eq (hp : k.Pending e []) : k.settle e.status = k :=
  settle_eq_self fun m hm hlive => by
    rw [hp.settled m hm hlive List.not_mem_nil, Member.Event.state_eq_ofStatus]

/-- The member that takes the event next is the only member with its pid, and it is live. -/
theorem Pending.live_of_pid {q : Pid} {qs : List Pid} (hp : k.Pending e (q :: qs)) {m : Member}
    (hm : m ∈ k.members) (hmq : m.pid = q) : m.state ≠ .exited := by
  obtain ⟨a, ha, hlive, haq⟩ := mem_livePids.mp (hp.live q List.mem_cons_self)
  rw [List.inj_on_of_nodup_map hp.pids hm ha (hmq.trans haq.symm)]
  exact hlive

/-- The last live member's event takes the job out only when it is an exit and nothing is left. -/
theorem Pending.done_of_mark {q : Pid} {qs : List Pid} (hp : k.Pending e (q :: qs))
    (hdone : (k.markMember q e.state).derivedStatus = .done) : qs = [] ∧ e = .exited := by
  have hall : ∀ m ∈ (k.markMember q e.state).members, m.state = .exited := by
    intro m hm
    by_contra hlive
    exact (derivedStatus_ne_done_iff _).mpr ⟨m, hm, hlive⟩ hdone
  rw [markMember_members hp.pids] at hall
  constructor
  · -- a member still to mark would be live after this step
    refine List.eq_nil_iff_forall_not_mem.mpr fun q' hq' => ?_
    obtain ⟨m, hm, hlive, rfl⟩ := mem_livePids.mp (hp.live q' (List.mem_cons_of_mem q hq'))
    have hne : m.pid ≠ q := fun h => (List.nodup_cons.mp hp.nodup).1 (h ▸ hq')
    apply hlive
    simpa [hne] using hall _ (List.mem_map_of_mem hm)
  · obtain ⟨m, hm, -, hmq⟩ := mem_livePids.mp (hp.live q List.mem_cons_self)
    have := hall _ (List.mem_map_of_mem (f := fun m =>
      if m.pid = q then { m with state := e.state } else m) hm)
    simp only [hmq, if_true] at this
    exact Member.Event.state_eq_exited_iff.mp this

/-- After one member's event, the job, moved to the status its members imply, has the rest left. -/
theorem Pending.next {q : Pid} {qs : List Pid} (hp : k.Pending e (q :: qs))
    (hdone : (k.markMember q e.state).derivedStatus ≠ .done) :
    Pending { k.markMember q e.state with status := (k.markMember q e.state).derivedStatus } e qs where
  coherent := ⟨(derivedStatus_ne_done_iff _).mp hdone, rfl⟩
  pids := by
    show ((k.markMember q e.state).members.map (·.pid)).Nodup
    rw [pids_markMember hp.pids]
    exact hp.pids
  nodup := (List.nodup_cons.mp hp.nodup).2
  live q' hq' := by
    obtain ⟨m, hm, hlive, rfl⟩ := mem_livePids.mp (hp.live q' (List.mem_cons_of_mem q hq'))
    have hne : m.pid ≠ q := fun h => (List.nodup_cons.mp hp.nodup).1 (h ▸ hq')
    refine mem_livePids.mpr ⟨m, ?_, hlive, rfl⟩
    show m ∈ (k.markMember q e.state).members
    rw [markMember_members hp.pids]
    simpa [hne] using List.mem_map_of_mem (f := fun m =>
      if m.pid = q then { m with state := e.state } else m) hm
  settled m' hm' hlive hrest := by
    have hm' : m' ∈ (k.markMember q e.state).members := hm'
    rw [markMember_members hp.pids] at hm'
    obtain ⟨m, hm, rfl⟩ := List.mem_map.mp hm'
    by_cases hmq : m.pid = q
    · simp [hmq]
    · simp only [hmq, if_false] at hlive hrest ⊢
      exact hp.settled m hm hlive (by simp [hmq, hrest])

/-- Settling after one member's event settles as before it: that member was live, and it takes
the state that settling gives it anyway. -/
theorem Pending.settle_markMember {q : Pid} {qs : List Pid} (hp : k.Pending e (q :: qs))
    (hs : e.status ≠ .done) : (k.markMember q e.state).settle e.status = k.settle e.status := by
  have hlive : e.state ≠ .exited := fun h => hs (Member.Event.status_eq_done_iff.mpr
    (Member.Event.state_eq_exited_iff.mp h))
  rw [settle_of_ne_done _ hs, settle_of_ne_done _ hs, markMember_members hp.pids, List.map_map]
  simp only [markMember_id, markMember_pgid, markMember_status, markMember_command, Job.mk.injEq,
    true_and]
  refine ⟨rfl, List.map_congr_left fun m hm => ?_⟩
  by_cases hmq : m.pid = q
  · simp [hmq, hp.live_of_pid hm hmq, Member.Event.state_eq_ofStatus]
  · simp [hmq]

end Job

namespace Table

/-- One member's event, then the whole job moved to the event's status, moves the job as the
whole move alone. -/
theorem setStatus_mark_of_pending {t : Table} (hs : t.Sorted) (hd : t.Distinct) {k : Job}
    (hk : k ∈ t.jobs) {e : Member.Event} {q : Pid} {qs : List Pid} (hp : k.Pending e (q :: qs))
    (hdone : (k.markMember q e.state).derivedStatus ≠ .done) :
    ((t.mark k.pgid q e).2.setStatus k.pgid e.status).2 = (t.setStatus k.pgid e.status).2 := by
  have hq : k.hasMember q = true := Job.hasMember_of_mem_livePids (hp.live q List.mem_cons_self)
  have hmark : (t.mark k.pgid q e).2 = t.replace k.id (some { k.markMember q e.state with
      status := (k.markMember q e.state).derivedStatus }) := by
    rw [mark_of_member (hd.findByGroup hk) hq e, Job.moveTo_of_ne_done hdone]
  have hk' : { k.markMember q e.state with status := (k.markMember q e.state).derivedStatus } ∈
      (t.mark k.pgid q e).2.jobs := by
    rw [hmark]
    exact mem_replace.mpr (.inr ⟨rfl, mem_ids.mpr ⟨k, hk, rfl⟩⟩)
  have hfind : (t.mark k.pgid q e).2.findByGroup k.pgid = some { k.markMember q e.state with
      status := (k.markMember q e.state).derivedStatus } :=
    (hd.mark hs k.pgid q e).findByGroup hk'
  rw [setStatus_of_findByGroup hfind, setStatus_of_findByGroup (hd.findByGroup hk)]
  show (t.mark k.pgid q e).2.replace k.id _ = t.replace k.id _
  rw [hmark, replace_replace_of_some (show ({ k.markMember q e.state with
      status := (k.markMember q e.state).derivedStatus } : Job).id = k.id from rfl)]
  by_cases hs' : e.status = .done
  · rw [hs', Job.moveTo_done, Job.moveTo_done]
  · rw [Job.settle_withStatus, Job.moveTo_withStatus, hp.settle_markMember hs']

/-- Marking, one by one, the live members left moves the job as `setStatus` with the event's status
does, and the only notice on the way is the one `setStatus` gives. -/
theorem run_marks_of_pending {t : Table} (hs : t.Sorted) (hd : t.Distinct) {k : Job}
    (hk : k ∈ t.jobs) {e : Member.Event} {qs : List Pid} (hp : k.Pending e qs) :
    run t (qs.map fun q => .mark k.pgid q e) = (t.setStatus k.pgid e.status).2 ∧
      (replies t (qs.map fun q => .mark k.pgid q e)).flatMap Reply.notices =
        (Notice.ofMove k e.status).toList := by
  induction qs generalizing t k with
  | nil =>
      obtain ⟨hne, hstatus⟩ := hp.status_eq
      have hnotice : Notice.ofMove k e.status = none := by
        rw [← hstatus]
        exact Notice.ofMove_status_eq_none (hstatus ▸ hne)
      rw [hnotice, setStatus_of_findByGroup (hd.findByGroup hk), hp.settle_eq,
        Job.moveTo_of_ne_done hne, ← hstatus]
      exact ⟨(replace_self hs hk).symm, rfl⟩
  | cons q qs ih =>
      have hq : k.hasMember q = true := Job.hasMember_of_mem_livePids (hp.live q List.mem_cons_self)
      have hmark := mark_of_member (hd.findByGroup hk) hq e
      have hrun : run t ((q :: qs).map fun q => .mark k.pgid q e) =
          run (t.mark k.pgid q e).2 (qs.map fun q => .mark k.pgid q e) := rfl
      have hrep : (replies t ((q :: qs).map fun q => .mark k.pgid q e)).flatMap Reply.notices =
          (t.mark k.pgid q e).1.toList ++
            (replies (t.mark k.pgid q e).2 (qs.map fun q => .mark k.pgid q e)).flatMap Reply.notices :=
        rfl
      rw [hrun, hrep]
      by_cases hdone : (k.markMember q e.state).derivedStatus = .done
      · obtain ⟨rfl, rfl⟩ := hp.done_of_mark hdone
        rw [hmark, hdone, setStatus_of_findByGroup (hd.findByGroup hk)]
        exact ⟨rfl, by simp [replies, Member.Event.status]⟩
      · have hs' : (t.mark k.pgid q e).2.Sorted := hs.apply (.mark k.pgid q e)
        have hk' : { k.markMember q e.state with status := (k.markMember q e.state).derivedStatus } ∈
            (t.mark k.pgid q e).2.jobs := by
          rw [hmark, Job.moveTo_of_ne_done hdone]
          exact mem_replace.mpr (.inr ⟨rfl, mem_ids.mpr ⟨k, hk, rfl⟩⟩)
        obtain ⟨ih₁, ih₂⟩ := ih hs' (hd.mark hs k.pgid q e) hk' (hp.next hdone)
        simp only [Job.markMember_pgid] at ih₁ ih₂
        refine ⟨ih₁.trans (setStatus_mark_of_pending hs hd hk hp hdone), ?_⟩
        rw [ih₂, hmark]
        exact Notice.ofMove_markMember_append hp.coherent hq e hdone

/-- Every live member of a coherent job with distinct pids is still to mark. -/
theorem pending_of_perm {j : Job} (hj : j.Coherent) (hpids : (j.members.map (·.pid)).Nodup)
    (e : Member.Event) {qs : List Pid} (hqs : qs.Perm j.livePids) : j.Pending e qs where
  coherent := hj
  pids := hpids
  nodup := hqs.nodup_iff.mpr (hpids.sublist (List.filter_sublist.map _))
  live _ hq := hqs.mem_iff.mp hq
  settled m hm hlive hq := absurd (hqs.mem_iff.mpr (Job.mem_livePids.mpr ⟨m, hm, hlive, rfl⟩)) hq

/-- Marking every live member of a job with one event, in any order, does what one `setStatus`
with the event's status does. -/
theorem marks_of_live_eq_setStatus (c : Nat) (ops : List Op) (hops : ∀ op ∈ ops, op.Launchable)
    (hd : (run (withCapacity c) ops).Distinct) {j : Job} (hj : j ∈ (run (withCapacity c) ops).jobs)
    (e : Member.Event) {qs : List Pid} (hqs : qs.Perm j.livePids) :
    let t := run (withCapacity c) ops
    let marks := qs.map fun q => Op.mark j.pgid q e
    run t marks = (t.setStatus j.pgid e.status).2 ∧
      (replies t marks).flatMap Reply.notices = (t.setStatus j.pgid e.status).1.toList ∧
      (t.setStatus j.pgid e.status).1.toList = match e with
        | .exited => [.ofJob j .done]
        | .stopped => if j.status = .stopped then [] else [.ofJob j .stopped]
        | .continued => [] := by
  intro t marks
  have hs : t.Sorted := (sorted_withCapacity c).run ops
  have hco : t.Coherent := Coherent.run (fun _ hk => absurd hk List.not_mem_nil) hops
  have hset : (t.setStatus j.pgid e.status).1 = Notice.ofMove j e.status := by
    rw [setStatus_of_findByGroup (hd.findByGroup hj)]
  obtain ⟨hrun, hnotices⟩ :=
    run_marks_of_pending hs hd hj (pending_of_perm (hco j hj) (hd.pids j hj) e hqs)
  refine ⟨hrun, hset ▸ hnotices, ?_⟩
  rw [hset]
  cases e with
  | exited => rfl
  | stopped => by_cases h : j.status = .stopped <;> simp [Notice.ofMove, Member.Event.status, h]
  | continued => rfl

/-- A three-stage job stopped in its first stage, with its second stage gone: continuing its live
stages one by one, last stage first, is continuing the whole job. -/
theorem continue_stages_one_by_one :
    let t := run (withCapacity 20)
      [.insert 10 .stopped "a | b | c" true [⟨10, .stopped⟩, ⟨11, .exited⟩, ⟨12, .running⟩]]
    let marks := [12, 10].map fun q => Op.mark 10 q .continued
    run t marks = (t.setStatus 10 .running).2 ∧
      (replies t marks).flatMap Reply.notices = (t.setStatus 10 .running).1.toList ∧
      (t.setStatus 10 .running).1.toList = [] :=
  @marks_of_live_eq_setStatus 20
    [.insert 10 .stopped "a | b | c" true [⟨10, .stopped⟩, ⟨11, .exited⟩, ⟨12, .running⟩]]
    (by simp [Op.Launchable, Member.impliedStatus]) ⟨by decide, by decide⟩
    ⟨⟨1⟩, 10, .stopped, "a | b | c", true, [⟨10, .stopped⟩, ⟨11, .exited⟩, ⟨12, .running⟩]⟩
    (by decide) .continued [12, 10] (by decide)

end Table

end JobControl
