import JobControl.Proofs.Table.Reorder

/-!
# Waiting for a continued job, member by member

`fg` moves a job to running and then waits for each member that was live, recording how each one
ended with `mark`: a stop, or an exit. Such marks never continue a member, so a stopped member
stays stopped, and once the job is stopped it stays stopped; the job leaves the table only when
the last member waited for exits and none stopped.

* `Job.markAll`: the job after each pid of a list takes the state of its event;
* `Job.Awaiting k rest`: what is left to mark: distinct live members of `k`, each with a stop or
  an exit, while a stopped `k` keeps a stopped member that is not marked again;
* `run_marks_of_awaiting`: the marks move the job as one move to the status its members imply
  after all of them, with that move's notice and no other;
* `markAll_members`: with distinct pids, each member marked takes its event's state and every
  other member is left as it was;
* `resume_then_marks`: a job moved to running (`Job.resumed`) whose live members then stop or
  exit, each once, leaves with one done notice when all of them exited, and otherwise stays
  stopped with one stopped notice, each live member in the state of its event.
-/

namespace JobControl

namespace Job

/-- The job after each pid of `rest`, in order, takes the state of its event. -/
def markAll (k : Job) (rest : List (Pid × Member.Event)) : Job :=
  rest.foldl (fun k x => k.markMember x.1 x.2.state) k

@[simp] theorem markAll_nil (k : Job) : k.markAll [] = k := rfl

theorem markAll_cons (k : Job) (x : Pid × Member.Event) (rest : List (Pid × Member.Event)) :
    k.markAll (x :: rest) = (k.markMember x.1 x.2.state).markAll rest := rfl

theorem markAll_withStatus (k : Job) (s : Status) (rest : List (Pid × Member.Event)) :
    ({ k with status := s } : Job).markAll rest = { k.markAll rest with status := s } := by
  induction rest generalizing k with
  | nil => rfl
  | cons x rest ih => exact ih (k.markMember x.1 x.2.state)

@[simp] theorem derivedStatus_withStatus (k : Job) (s : Status) :
    ({ k with status := s } : Job).derivedStatus = k.derivedStatus := rfl

/-- Marking another pid keeps a member as it is. -/
theorem mem_markMember_of_ne {k : Job} {m : Member} (hm : m ∈ k.members) {q : Pid} (hq : m.pid ≠ q)
    (st : Member.State) : m ∈ (k.markMember q st).members := by
  obtain ⟨id, pgid, status, command, isPipeline, members⟩ := k
  simp only [markMember] at hm ⊢
  induction members with
  | nil => simp at hm
  | cons a as ih =>
    simp only [markMember.go]
    rcases List.mem_cons.mp hm with rfl | hm
    · simp [hq]
    · split <;> exact List.mem_cons_of_mem _ (by first | exact hm | exact ih hm)

theorem mem_markAll_of_not_mem {k : Job} {m : Member} (hm : m ∈ k.members)
    {rest : List (Pid × Member.Event)} (hrest : m.pid ∉ rest.map (·.1)) :
    m ∈ (k.markAll rest).members := by
  induction rest generalizing k with
  | nil => exact hm
  | cons x rest ih =>
    simp only [List.map_cons, List.mem_cons, not_or] at hrest
    exact ih (mem_markMember_of_ne hm hrest.1 _) hrest.2

/-- With distinct pids, marking a list of members gives each of them its event's state, read
through any `f` that agrees with the list, and leaves every other member as it was. -/
theorem markAll_members {k : Job} (hk : (k.members.map (·.pid)).Nodup)
    {rest : List (Pid × Member.Event)} {f : Pid → Member.State}
    (hf : ∀ x ∈ rest, f x.1 = x.2.state) :
    (k.markAll rest).members =
      k.members.map fun m => if m.pid ∈ rest.map (·.1) then { m with state := f m.pid } else m := by
  induction rest generalizing k with
  | nil => simp
  | cons x rest ih =>
    have hx : f x.1 = x.2.state := hf x List.mem_cons_self
    have hk' : ((k.markMember x.1 x.2.state).members.map (·.pid)).Nodup := by
      rw [pids_markMember hk]
      exact hk
    rw [markAll_cons, ih hk' fun y hy => hf y (List.mem_cons_of_mem x hy), markMember_members hk,
      List.map_map]
    refine List.map_congr_left fun m _ => ?_
    simp only [Function.comp_apply]
    by_cases hmx : m.pid = x.1
    · simp [hmx, hx]
    · have hmem : m.pid ∈ (x :: rest).map (·.1) ↔ m.pid ∈ rest.map (·.1) := by simp [hmx]
      rw [if_neg hmx]
      simp only [hmem]

/-- What is left while the members that were live take a stop or an exit one by one: distinct
live members, none of them continued, and a stopped job keeps a stopped member that is not
marked again. -/
structure Awaiting (k : Job) (rest : List (Pid × Member.Event)) : Prop where
  coherent : k.Coherent
  pids : (k.members.map (·.pid)).Nodup
  nodup : (rest.map (·.1)).Nodup
  live : ∀ x ∈ rest, x.1 ∈ k.livePids
  not_continued : ∀ x ∈ rest, x.2 ≠ .continued
  keeps_stop : k.status = .stopped → ∃ m ∈ k.members, m.state = .stopped ∧ m.pid ∉ rest.map (·.1)

variable {k : Job} {rest : List (Pid × Member.Event)}

/-- The pid marked first is marked once. -/
theorem Awaiting.ne_of_mem {x y : Pid × Member.Event} (ha : k.Awaiting (x :: rest)) (hy : y ∈ rest) :
    x.1 ≠ y.1 := by
  intro h
  apply (List.nodup_cons.mp ha.nodup).1
  show x.1 ∈ rest.map (·.1)
  rw [h]
  exact List.mem_map_of_mem hy

/-- A stopped member that is not marked keeps the job stopped to the end. -/
theorem derivedStatus_markAll_of_stopped {m : Member} (hm : m ∈ k.members)
    (hstop : m.state = .stopped) (hrest : m.pid ∉ rest.map (·.1)) :
    (k.markAll rest).derivedStatus = .stopped := by
  have hm' := mem_markAll_of_not_mem hm hrest
  have hall : ¬ (k.markAll rest).members.all (·.state = .exited) := by
    simpa using ⟨m, hm', by simp [hstop]⟩
  have hany : (k.markAll rest).members.any (·.state = .stopped) :=
    List.any_eq_true.mpr ⟨m, hm', by simpa using hstop⟩
  simp [derivedStatus, hall, hany]

theorem Awaiting.final_of_stopped (ha : k.Awaiting rest) (hs : k.status = .stopped) :
    (k.markAll rest).derivedStatus = .stopped := by
  obtain ⟨m, hm, hstop, hrest⟩ := ha.keeps_stop hs
  exact derivedStatus_markAll_of_stopped hm hstop hrest

/-- The job leaves only at the last mark: every pid still to mark is live after this one. -/
theorem Awaiting.done_of_mark {x : Pid × Member.Event} (ha : k.Awaiting (x :: rest))
    (hdone : (k.markMember x.1 x.2.state).derivedStatus = .done) : rest = [] := by
  refine List.eq_nil_iff_forall_not_mem.mpr fun y hy => ?_
  exact Job.derivedStatus_markMember_ne_done ha.pids (ha.live y (List.mem_cons_of_mem x hy))
    (ha.ne_of_mem hy) x.2.state hdone

/-- After one mark, the job, moved to the status its members imply, has the rest left. -/
theorem Awaiting.next {x : Pid × Member.Event} (ha : k.Awaiting (x :: rest))
    (hdone : (k.markMember x.1 x.2.state).derivedStatus ≠ .done) :
    Awaiting { k.markMember x.1 x.2.state with
      status := (k.markMember x.1 x.2.state).derivedStatus } rest where
  coherent := ⟨(derivedStatus_ne_done_iff _).mp hdone, rfl⟩
  pids := pids_markMember ha.pids x.1 x.2.state ▸ ha.pids
  nodup := (List.nodup_cons.mp ha.nodup).2
  live y hy :=
    mem_livePids_markMember ha.pids (ha.live y (List.mem_cons_of_mem x hy)) (ha.ne_of_mem hy) x.2.state
  not_continued y hy := ha.not_continued y (List.mem_cons_of_mem x hy)
  keeps_stop hs := by
    have hx : x.1 ∉ rest.map (·.1) := (List.nodup_cons.mp ha.nodup).1
    by_cases he : x.2 = .stopped
    · obtain ⟨m, hm, hmq, hmst⟩ := exists_mem_markMember
        (hasMember_of_mem_livePids (ha.live x List.mem_cons_self)) x.2.state
      exact ⟨m, hm, by rw [hmst, he]; rfl, hmq ▸ hx⟩
    · -- an exit stops nothing: the job was stopped, by a member not marked
      have hst : x.2.state ≠ .stopped := by
        have := ha.not_continued x List.mem_cons_self
        cases h : x.2 <;> simp_all [Member.Event.state]
      obtain ⟨m, hm, hmstop, hmrest⟩ := ha.keeps_stop (status_eq_stopped_of_markMember ha.coherent hst hs)
      simp only [List.map_cons, List.mem_cons, not_or] at hmrest
      exact ⟨m, mem_markMember_of_ne hm hmrest.1 _, hmstop, hmrest.2⟩

end Job

namespace Notice

/-- The notice of the first mark and that of the move the rest of the marks make are the notice of
one move to where the marks end: a stop is reported once, at the mark that stops the job. -/
theorem ofMove_awaiting_append {k : Job} {x : Pid × Member.Event} {rest : List (Pid × Member.Event)}
    (ha : k.Awaiting (x :: rest)) (hdone : (k.markMember x.1 x.2.state).derivedStatus ≠ .done) :
    (ofMove k (k.markMember x.1 x.2.state).derivedStatus).toList ++
      (ofMove { k.markMember x.1 x.2.state with
        status := (k.markMember x.1 x.2.state).derivedStatus }
        (k.markAll (x :: rest)).derivedStatus).toList =
      (ofMove k (k.markAll (x :: rest)).derivedStatus).toList := by
  have hnext := ha.next hdone
  by_cases hsame : (k.markMember x.1 x.2.state).derivedStatus = k.status
  · have hfirst : ofMove k (k.markMember x.1 x.2.state).derivedStatus = none := by
      rw [hsame]
      exact ofMove_status_eq_none ha.coherent.status_ne_done
    have hcongr : ∀ s, ofMove { k.markMember x.1 x.2.state with
        status := (k.markMember x.1 x.2.state).derivedStatus } s = ofMove k s := by
      intro s
      refine ofMove_congr ?_ ?_ ?_ s
      · rfl
      · rfl
      · exact hsame
    rw [hfirst, hcongr]
    rfl
  · have hrun : k.status = .running := by
      cases hk : k.status with
      | running => rfl
      | done => exact absurd hk ha.coherent.status_ne_done
      | stopped =>
        obtain ⟨m, hm, hmstop, hmrest⟩ := ha.keeps_stop hk
        simp only [List.map_cons, List.mem_cons, not_or] at hmrest
        have : (k.markAll [x]).derivedStatus = .stopped :=
          Job.derivedStatus_markAll_of_stopped hm hmstop (by simp [hmrest.1])
        exact absurd (this.trans hk.symm) hsame
    have hstop : (k.markMember x.1 x.2.state).derivedStatus = .stopped := by
      cases hd : (k.markMember x.1 x.2.state).derivedStatus with
      | stopped => rfl
      | done => exact absurd hd hdone
      | running => exact absurd (hd.trans hrun.symm) hsame
    have hfinal : (k.markAll (x :: rest)).derivedStatus = .stopped := by
      have := hnext.final_of_stopped hstop
      rwa [Job.markAll_withStatus, Job.derivedStatus_withStatus] at this
    rw [hstop, hfinal]
    simp [ofMove, hrun]

end Notice

namespace Table

/-- Marking, one by one, the stops and exits left moves the job as one move to the status its
members imply after all of them, and the only notice on the way is that move's. -/
theorem run_marks_of_awaiting {t : Table} (hs : t.Sorted) (hd : t.Distinct) {k : Job}
    (hk : k ∈ t.jobs) {rest : List (Pid × Member.Event)} (ha : k.Awaiting rest) :
    run t (rest.map fun x => .mark k.pgid x.1 x.2) =
        t.replace k.id ((k.markAll rest).moveTo (k.markAll rest).derivedStatus) ∧
      (replies t (rest.map fun x => .mark k.pgid x.1 x.2)).flatMap Reply.notices =
        (Notice.ofMove k (k.markAll rest).derivedStatus).toList := by
  -- the group stays fixed while the job changes from one mark to the next
  suffices h : ∀ {g : Pid}, k.pgid = g →
      run t (rest.map fun x => .mark g x.1 x.2) =
        t.replace k.id ((k.markAll rest).moveTo (k.markAll rest).derivedStatus) ∧
      (replies t (rest.map fun x => .mark g x.1 x.2)).flatMap Reply.notices =
        (Notice.ofMove k (k.markAll rest).derivedStatus).toList from h rfl
  intro g hg
  induction rest generalizing t k with
  | nil =>
    rw [Job.markAll_nil, ← ha.coherent.status_eq, Job.moveTo_of_ne_done ha.coherent.status_ne_done,
      Notice.ofMove_status_eq_none ha.coherent.status_ne_done]
    exact ⟨(replace_self hs hk).symm, rfl⟩
  | cons x rest ih =>
    have hq : k.hasMember x.1 = true := Job.hasMember_of_mem_livePids (ha.live x List.mem_cons_self)
    have hmark := mark_of_member (hg ▸ hd.findByGroup hk) hq x.2
    have hrun : run t ((x :: rest).map fun x => .mark g x.1 x.2) =
        run (t.mark g x.1 x.2).2 (rest.map fun x => .mark g x.1 x.2) := rfl
    have hrep : (replies t ((x :: rest).map fun x => .mark g x.1 x.2)).flatMap Reply.notices =
        (t.mark g x.1 x.2).1.toList ++
          (replies (t.mark g x.1 x.2).2 (rest.map fun x => .mark g x.1 x.2)).flatMap Reply.notices :=
      rfl
    rw [hrun, hrep]
    by_cases hdone : (k.markMember x.1 x.2.state).derivedStatus = .done
    · obtain rfl := ha.done_of_mark hdone
      rw [hmark, Job.markAll_cons, Job.markAll_nil, hdone]
      exact ⟨rfl, by simp [replies]⟩
    · have hmark₂ : (t.mark g x.1 x.2).2 = t.replace
          ({ k.markMember x.1 x.2.state with status := (k.markMember x.1 x.2.state).derivedStatus } :
            Job).id
          (some { k.markMember x.1 x.2.state with
            status := (k.markMember x.1 x.2.state).derivedStatus }) := by
        rw [hmark, Job.moveTo_of_ne_done hdone]
        rfl
      have hk' : { k.markMember x.1 x.2.state with
          status := (k.markMember x.1 x.2.state).derivedStatus } ∈ (t.mark g x.1 x.2).2.jobs := by
        rw [hmark₂]
        exact mem_replace.mpr (.inr ⟨rfl, mem_ids.mpr ⟨k, hk, rfl⟩⟩)
      have hs' : (t.mark g x.1 x.2).2.Sorted := hs.apply (.mark g x.1 x.2)
      obtain ⟨ih₁, ih₂⟩ := ih hs' (hd.mark hs g x.1 x.2) hk' (ha.next hdone) hg
      refine ⟨?_, ?_⟩
      · rw [ih₁, hmark₂, replace_replace_of_some rfl, Job.markAll_withStatus, Job.moveTo_withStatus,
          Job.derivedStatus_withStatus, Job.markAll_cons]
        rfl
      · rw [ih₂, hmark, Job.markAll_withStatus, Job.derivedStatus_withStatus]
        exact Notice.ofMove_awaiting_append ha hdone

end Table

/-! ## A job continued, then waited for -/

namespace Job

/-- Settling to a live status keeps which members are live. -/
theorem livePids_settle (j : Job) {s : Status} (hs : s ≠ .done) :
    (j.settle s).livePids = j.livePids := by
  have hlive : Member.State.ofStatus s ≠ .exited := by
    cases s <;> simp_all [Member.State.ofStatus]
  rw [settle_of_ne_done j hs]
  simp only [livePids]
  induction j.members with
  | nil => rfl
  | cons m ms ih => by_cases hm : m.state = .exited <;> simp_all

/-- The job as `fg` continues it: running, its live members running. -/
def resumed (j : Job) : Job :=
  { j.settle .running with status := .running }

@[simp] theorem resumed_id (j : Job) : j.resumed.id = j.id := rfl

@[simp] theorem resumed_pgid (j : Job) : j.resumed.pgid = j.pgid := rfl

@[simp] theorem resumed_status (j : Job) : j.resumed.status = .running := rfl

theorem derivedStatus_resumed (j : Job) :
    j.resumed.derivedStatus = (j.settle .running).derivedStatus := rfl

theorem resumed_eq (j : Job) : j.resumed = { j with
    status := .running
    members := j.members.map fun m =>
      if m.state = .exited then m else { m with state := .running } } := rfl

/-- With distinct pids, the live pids are distinct. -/
theorem livePids_nodup {j : Job} (h : (j.members.map (·.pid)).Nodup) : j.livePids.Nodup :=
  (List.filter_sublist.map fun m : Member => m.pid).nodup h

/-- Every stop or exit of the members that were live is left to mark on the job continued. -/
theorem awaiting_resumed {j : Job} (hj : j.Coherent) (hpids : (j.members.map (·.pid)).Nodup)
    {rest : List (Pid × Member.Event)} (hrest : rest.map (·.1) = j.livePids)
    (hev : ∀ x ∈ rest, x.2 ≠ .continued) :
    Awaiting j.resumed rest where
  coherent := by
    have hd : j.resumed.derivedStatus = .running := by
      rw [derivedStatus_resumed, derivedStatus_settle hj.alive (by decide)]
    exact ⟨(derivedStatus_ne_done_iff _).mp (by rw [hd]; decide), hd.symm⟩
  pids := by
    show ((j.settle .running).members.map (·.pid)).Nodup
    rw [pids_settle]
    exact hpids
  nodup := by
    rw [hrest]
    exact livePids_nodup hpids
  live x hx := by
    show x.1 ∈ (j.settle .running).livePids
    rw [livePids_settle j (by decide), ← hrest]
    exact List.mem_map_of_mem hx
  not_continued := hev
  keeps_stop h := by simp at h

/-- Marking changes members only. -/
theorem markAll_eq_withMembers (k : Job) (rest : List (Pid × Member.Event)) :
    k.markAll rest = { k with members := (k.markAll rest).members } := by
  induction rest generalizing k with
  | nil => rfl
  | cons x rest ih => exact ih (k.markMember x.1 x.2.state)

section Resumed

variable {j : Job} (hpids : (j.members.map (·.pid)).Nodup) {rest : List (Pid × Member.Event)}
  (hrest : rest.map (·.1) = j.livePids) {f : Pid → Member.State}
  (hf : ∀ x ∈ rest, f x.1 = x.2.state)
include hpids hrest hf

/-- A job continued and then marked: a member that had exited stays as it was, each live one
takes the state `f` gives its pid. -/
theorem resumed_markAll_members :
    (j.resumed.markAll rest).members =
      j.members.map fun m => if m.state = .exited then m else { m with state := f m.pid } := by
  have hk : (j.resumed.members.map (·.pid)).Nodup := by
    show ((j.settle .running).members.map (·.pid)).Nodup
    rw [pids_settle]
    exact hpids
  rw [markAll_members hk hf, hrest, resumed_eq]
  simp only [List.map_map]
  refine List.map_congr_left fun m hm => ?_
  by_cases hx : m.state = .exited
  · -- a member that exited has no live namesake: pids are distinct
    have hdead : m.pid ∉ j.livePids := by
      intro hlive
      obtain ⟨m', hm', hlive', hpid⟩ := mem_livePids.mp hlive
      exact hlive' (List.inj_on_of_nodup_map hpids hm' hm hpid ▸ hx)
    simp [hx, hdead]
  · have hlive : m.pid ∈ j.livePids := mem_livePids.mpr ⟨m, hm, hx, rfl⟩
    simp [hx, hlive]

/-- When every wait ended in an exit, the job is done. -/
theorem derivedStatus_resumed_of_exited (hall : ∀ x ∈ rest, x.2 = .exited) :
    (j.resumed.markAll rest).derivedStatus = .done := by
  have hexit : ∀ m ∈ j.members,
      (if m.state = .exited then m else { m with state := f m.pid }).state = .exited := by
    intro m hm
    split
    · assumption
    · rename_i hlive
      have hmem : m.pid ∈ rest.map (·.1) := hrest ▸ mem_livePids.mpr ⟨m, hm, hlive, rfl⟩
      obtain ⟨x, hx, hxm⟩ := List.mem_map.mp hmem
      rw [← hxm, hf x hx, hall x hx]
      rfl
  rw [derivedStatus, resumed_markAll_members hpids hrest hf, if_pos]
  refine List.all_eq_true.mpr fun m hm => ?_
  obtain ⟨m₀, hm₀, rfl⟩ := List.mem_map.mp hm
  exact decide_eq_true (hexit m₀ hm₀)

/-- When some wait ended in a stop, the job is stopped. -/
theorem derivedStatus_resumed_of_stopped (hstop : ∃ x ∈ rest, x.2 = .stopped) :
    (j.resumed.markAll rest).derivedStatus =
      .stopped := by
  obtain ⟨x, hx, hxstop⟩ := hstop
  have hlive : x.1 ∈ j.livePids := hrest ▸ List.mem_map_of_mem hx
  obtain ⟨m, hm, hmlive, hpid⟩ := mem_livePids.mp hlive
  have hm' : { m with state := .stopped } ∈
      (j.resumed.markAll rest).members := by
    rw [resumed_markAll_members hpids hrest hf]
    refine List.mem_map.mpr ⟨m, hm, ?_⟩
    rw [if_neg hmlive, hpid, hf x hx, hxstop]
    rfl
  have hall : ¬ (j.resumed.markAll rest).members.all
      (·.state = .exited) := by
    simpa using ⟨_, hm', by simp⟩
  have hany : (j.resumed.markAll rest).members.any
      (·.state = .stopped) :=
    List.any_eq_true.mpr ⟨_, hm', by simp⟩
  rw [derivedStatus, if_neg hall, if_pos hany]

end Resumed

/-- A pid list without repeats can be read as a function. -/
theorem exists_agreeing {rest : List (Pid × Member.Event)} (hn : (rest.map (·.1)).Nodup) :
    ∃ f : Pid → Member.State, ∀ x ∈ rest, f x.1 = x.2.state := by
  induction rest with
  | nil => exact ⟨fun _ => .running, by simp⟩
  | cons y rest ih =>
    rw [List.map_cons, List.nodup_cons] at hn
    obtain ⟨f, hf⟩ := ih hn.2
    refine ⟨fun p => if p = y.1 then y.2.state else f p, fun x hx => ?_⟩
    rcases List.mem_cons.mp hx with rfl | hx
    · simp
    · have hne : x.1 ≠ y.1 := fun h => hn.1 (h ▸ List.mem_map_of_mem hx)
      simp [hne, hf x hx]

end Job

namespace Table

/-- Continuing a group moves its lowest-numbered job to running, its live members with it. -/
theorem setStatus_running {t : Table} {g : Pid} {k : Job} (h : t.findByGroup g = some k) :
    (t.setStatus g .running).2 = t.replace k.id (some k.resumed) := by
  rw [setStatus_of_findByGroup h, Job.moveTo_of_ne_done (by decide)]
  rfl

/-- A job moved to running whose live members then stop or exit in turn leaves done with one notice
or stays stopped with one. -/
theorem resume_then_marks {t : Table} (hs : t.Sorted) (hc : t.Coherent) (hd : t.Distinct)
    {j : Job} (hj : j ∈ t.jobs) {rest : List (Pid × Member.Event)}
    (hrest : rest.map (·.1) = j.livePids) (hev : ∀ x ∈ rest, x.2 ≠ .continued)
    {f : Pid → Member.State} (hf : ∀ x ∈ rest, f x.1 = x.2.state) :
    ((∀ x ∈ rest, x.2 = .exited) →
      run (t.setStatus j.pgid .running).2 (rest.map fun x => .mark j.pgid x.1 x.2) = t.remove j.id ∧
      (replies (t.setStatus j.pgid .running).2 (rest.map fun x => .mark j.pgid x.1 x.2)).flatMap
        Reply.notices = [.ofJob j .done]) ∧
    ((∃ x ∈ rest, x.2 = .stopped) →
      run (t.setStatus j.pgid .running).2 (rest.map fun x => .mark j.pgid x.1 x.2) =
        t.replace j.id (some { j with
          status := .stopped
          members := j.members.map fun m =>
            if m.state = .exited then m else { m with state := f m.pid } }) ∧
      (replies (t.setStatus j.pgid .running).2 (rest.map fun x => .mark j.pgid x.1 x.2)).flatMap
        Reply.notices = [.ofJob j .stopped]) := by
  have hpids := hd.pids j hj
  have h₀ := setStatus_running (hd.findByGroup hj)
  have hs₀ : (t.setStatus j.pgid .running).2.Sorted := hs.apply (.setStatus j.pgid .running)
  have hd₀ := hd.setStatus hs j.pgid .running
  have hk₀ : j.resumed ∈ (t.setStatus j.pgid .running).2.jobs := by
    rw [h₀]
    exact mem_replace.mpr (.inr ⟨rfl, mem_ids.mpr ⟨j, hj, rfl⟩⟩)
  obtain ⟨hrun, hnotices⟩ :=
    run_marks_of_awaiting hs₀ hd₀ hk₀ (Job.awaiting_resumed (hc j hj) hpids hrest hev)
  rw [Job.resumed_pgid, Job.resumed_id] at hrun
  rw [Job.resumed_pgid] at hnotices
  refine ⟨fun hall => ?_, fun hstop => ?_⟩
  · have hdone := Job.derivedStatus_resumed_of_exited hpids hrest hf hall
    rw [hdone] at hrun hnotices
    refine ⟨?_, ?_⟩
    · rw [hrun, h₀, replace_replace_of_some (Job.resumed_id j), remove_eq_replace]
      rfl
    · rw [hnotices]
      rfl
  · have hstopped := Job.derivedStatus_resumed_of_stopped hpids hrest hf hstop
    rw [hstopped] at hrun hnotices
    refine ⟨?_, ?_⟩
    · rw [hrun, h₀, replace_replace_of_some (Job.resumed_id j), Job.moveTo_of_ne_done (by decide),
        Job.markAll_eq_withMembers, Job.resumed_markAll_members hpids hrest hf]
      rfl
    · rw [hnotices]
      rfl

end Table

end JobControl
