import JobControl.Job.Table
import Mathlib

/-!
# What each operation does to the jobs of a table

* `Table.replace t id o`: the jobs numbered `id` replaced by `o`, or taken out when `o` is none.
  `setStatus` and `mark` are each one `replace` of the job they reach, with the notice of its move
  (`setStatus_of_findByGroup`, `mark_of_member`, `mark_of_not_member`); `transition_update` is the
  step both go through.
* `Job.moveTo j s`: the job a table keeps after moving `j` to `s`, none for done;
  `Notice.ofMove j s`: the notice of that move.
* `Job.enrol`: the job `insert` adds (`insert_of_lt`); `insert_eq_error_iff` says when it refuses.
* `Table.Sorted`: jobs in strictly increasing order of number, kept by `place`, `replace` and
  `pruneDone`; in a sorted table a number names one job (`eq_of_mem_of_id_eq`).
* `mem_replace`, `mem_place`, `mem_pruneDone`: which jobs the results hold.
-/

namespace JobControl

/-- A job number as a natural number. -/
def JobId.toNat (id : JobId) : Nat :=
  id.val.toNat

theorem JobId.eq_iff_toNat_eq {a b : JobId} : a = b ↔ a.toNat = b.toNat := by
  obtain ⟨a⟩ := a
  obtain ⟨b⟩ := b
  simp [JobId.toNat, UInt32.toNat_inj]

namespace Job

/-- The job a table keeps after moving `j` to a status: none for done, which takes it out. -/
def moveTo (j : Job) : Status → Option Job
  | .done => none
  | s => some { j with status := s }

/-- The job `insert` adds under a number: without members it has the group leader alone, in the
state the status gives. -/
def enrol (id : JobId) (pgid : Pid) (status : Status) (command : String) (isPipeline : Bool)
    (members : List Member) : Job :=
  ⟨id, pgid, status, command, isPipeline,
    if members.isEmpty then [⟨pgid, .ofStatus status⟩] else members⟩

@[simp] theorem moveTo_done (j : Job) : j.moveTo .done = none := rfl

theorem moveTo_of_ne_done {j : Job} {s : Status} (hs : s ≠ .done) :
    j.moveTo s = some { j with status := s } := by
  cases s <;> first | rfl | exact absurd rfl hs

theorem eq_of_moveTo_eq_some {j k : Job} {s : Status} (h : j.moveTo s = some k) :
    s ≠ .done ∧ k = { j with status := s } := by
  cases s <;> simp_all [moveTo, eq_comm]

@[simp] theorem settle_id (j : Job) (s : Status) : (j.settle s).id = j.id := by
  cases s <;> rfl

@[simp] theorem settle_pgid (j : Job) (s : Status) : (j.settle s).pgid = j.pgid := by
  cases s <;> rfl

@[simp] theorem settle_status (j : Job) (s : Status) : (j.settle s).status = j.status := by
  cases s <;> rfl

@[simp] theorem settle_command (j : Job) (s : Status) : (j.settle s).command = j.command := by
  cases s <;> rfl

@[simp] theorem markMember_id (j : Job) (pid : Pid) (st : Member.State) :
    (j.markMember pid st).id = j.id := rfl

@[simp] theorem markMember_pgid (j : Job) (pid : Pid) (st : Member.State) :
    (j.markMember pid st).pgid = j.pgid := rfl

@[simp] theorem markMember_status (j : Job) (pid : Pid) (st : Member.State) :
    (j.markMember pid st).status = j.status := rfl

@[simp] theorem markMember_command (j : Job) (pid : Pid) (st : Member.State) :
    (j.markMember pid st).command = j.command := rfl

end Job

namespace Notice

/-- The notice of moving a job to a status: done always, stopped only when the job was not
stopped already, none for running. -/
def ofMove (j : Job) : Job.Status → Option Notice
  | .done => some (ofJob j .done)
  | .stopped => if j.status = .stopped then none else some (ofJob j .stopped)
  | .running => none

/-- A move's notice reads only the job's number, command and status. -/
theorem ofMove_congr {j k : Job} (hid : k.id = j.id) (hc : k.command = j.command)
    (hs : k.status = j.status) (s : Job.Status) : ofMove k s = ofMove j s := by
  cases s <;> simp [ofMove, ofJob, hid, hc, hs]

end Notice

namespace Table

/-- The numbers of the jobs, in table order. -/
def ids (t : Table) : List JobId :=
  t.jobs.map (·.id)

/-- The jobs stand in strictly increasing order of their numbers. -/
def Sorted (t : Table) : Prop :=
  t.jobs.Pairwise fun a b => a.id.toNat < b.id.toNat

/-- The jobs numbered `id` replaced by `o`, or taken out when `o` is none. -/
def replace (t : Table) (id : JobId) (o : Option Job) : Table :=
  { t with jobs := t.jobs.filterMap fun k => if k.id = id then o else some k }

theorem mem_ids {t : Table} {id : JobId} : id ∈ t.ids ↔ ∃ k ∈ t.jobs, k.id = id := by
  simp [ids]

@[simp] theorem replace_capacity (t : Table) (id : JobId) (o : Option Job) :
    (t.replace id o).capacity = t.capacity := rfl

@[simp] theorem replace_nextId (t : Table) (id : JobId) (o : Option Job) :
    (t.replace id o).nextId = t.nextId := rfl

theorem mem_replace {t : Table} {id : JobId} {o : Option Job} {k : Job} :
    k ∈ (t.replace id o).jobs ↔ (k ∈ t.jobs ∧ k.id ≠ id) ∨ (o = some k ∧ id ∈ t.ids) := by
  simp only [replace, List.mem_filterMap, mem_ids]
  constructor
  · rintro ⟨a, ha, h⟩
    by_cases hid : a.id = id
    · simp only [hid, if_true] at h
      exact .inr ⟨h, a, ha, hid⟩
    · simp only [hid, if_false, Option.some.injEq] at h
      subst h
      exact .inl ⟨ha, hid⟩
  · rintro (⟨hk, hid⟩ | ⟨rfl, a, ha, hid⟩)
    · exact ⟨k, hk, by simp [hid]⟩
    · exact ⟨a, ha, by simp [hid]⟩

theorem update_update {t : Table} {id : JobId} {f : Job → Job} (g : Job → Job)
    (hf : ∀ k, (f k).id = id) : (t.update id f).update id g = t.update id (g ∘ f) := by
  obtain ⟨jobs, nextId, capacity⟩ := t
  simp only [update, Table.mk.injEq, and_true]
  induction jobs with
  | nil => rfl
  | cons k ks ih => by_cases hk : k.id = id <;> simp [hk, hf, ih]

theorem remove_update {t : Table} {id : JobId} {f : Job → Job} (hf : ∀ k, (f k).id = id) :
    (t.update id f).remove id = t.remove id := by
  obtain ⟨jobs, nextId, capacity⟩ := t
  simp only [update, remove, Table.mk.injEq, and_true]
  induction jobs with
  | nil => rfl
  | cons k ks ih => by_cases hk : k.id = id <;> simp_all

theorem update_eq_replace (t : Table) (id : JobId) (a : Job) :
    t.update id (fun _ => a) = t.replace id (some a) := by
  obtain ⟨jobs, nextId, capacity⟩ := t
  simp only [update, replace, Table.mk.injEq, and_true]
  induction jobs with
  | nil => rfl
  | cons k ks ih => by_cases hk : k.id = id <;> simp [hk, ih]

theorem remove_eq_replace (t : Table) (id : JobId) : t.remove id = t.replace id none := by
  obtain ⟨jobs, nextId, capacity⟩ := t
  simp only [remove, replace, Table.mk.injEq, and_true]
  induction jobs with
  | nil => rfl
  | cons k ks ih => by_cases hk : k.id = id <;> simp_all

/-- A move of the job numbered `j.id`, written as a `transition` after putting `j` in its place,
is one `replace`. -/
theorem transition_update (t : Table) (j : Job) (s : Job.Status) :
    (t.update j.id fun _ => j).transition j s = (Notice.ofMove j s, t.replace j.id (j.moveTo s)) := by
  cases s with
  | done =>
      simp only [transition, Notice.ofMove, Job.moveTo_done]
      rw [remove_update (fun _ => rfl), remove_eq_replace]
  | stopped =>
      simp only [transition, Notice.ofMove, Job.moveTo, Notice.ofJob]
      rw [update_update _ (fun _ => rfl), Function.comp_def, update_eq_replace]
  | running =>
      simp only [transition, Notice.ofMove, Job.moveTo]
      rw [update_update _ (fun _ => rfl), Function.comp_def, update_eq_replace]

/-! ## `setStatus` and `mark` -/

theorem findByGroup_mem {t : Table} {g : Pid} {j : Job} (h : t.findByGroup g = some j) :
    j ∈ t.jobs ∧ j.pgid = g :=
  ⟨List.mem_of_find?_eq_some h, by simpa using List.find?_some h⟩

theorem setStatus_of_findByGroup_none {t : Table} {g : Pid} (h : t.findByGroup g = none)
    (s : Job.Status) : t.setStatus g s = (none, t) := by
  simp [setStatus, h]

theorem mark_of_findByGroup_none {t : Table} {g : Pid} (h : t.findByGroup g = none)
    (pid : Pid) (e : Member.Event) : t.mark g pid e = (none, t) := by
  simp [mark, h]

/-- `setStatus` settles the live members of the job it reaches and moves it to the status. -/
theorem setStatus_of_findByGroup {t : Table} {g : Pid} {j : Job} (h : t.findByGroup g = some j)
    (s : Job.Status) :
    t.setStatus g s = (Notice.ofMove j s, t.replace j.id ((j.settle s).moveTo s)) := by
  have hmove := transition_update t (j.settle s) s
  have hnotice : Notice.ofMove (j.settle s) s = Notice.ofMove j s :=
    Notice.ofMove_congr (by simp) (by simp) (by simp) s
  rw [Job.settle_id, hnotice] at hmove
  simpa [setStatus, h] using hmove

/-- `mark` for a member: the member takes the event's state, and the job the status its members
now imply. -/
theorem mark_of_member {t : Table} {g : Pid} {j : Job} (h : t.findByGroup g = some j)
    {pid : Pid} (hm : j.hasMember pid = true) (e : Member.Event) :
    t.mark g pid e = (Notice.ofMove j (j.markMember pid e.state).derivedStatus,
      t.replace j.id ((j.markMember pid e.state).moveTo (j.markMember pid e.state).derivedStatus)) := by
  let j' := j.markMember pid e.state
  have hmove := transition_update t j' j'.derivedStatus
  have hnotice : Notice.ofMove j' j'.derivedStatus = Notice.ofMove j j'.derivedStatus :=
    Notice.ofMove_congr (by simp [j']) (by simp [j']) (by simp [j']) _
  rw [Job.markMember_id, hnotice] at hmove
  simpa [mark, h, hm] using hmove

/-- `mark` for a pid that is no member stands for the whole group. -/
theorem mark_of_not_member {t : Table} {g : Pid} {j : Job} (h : t.findByGroup g = some j)
    {pid : Pid} (hm : j.hasMember pid = false) (e : Member.Event) :
    t.mark g pid e = t.setStatus g e.status := by
  simp [mark, h, hm]

/-! ## `insert` -/

theorem insert_eq_error_iff {t : Table} {pgid : Pid} {status : Job.Status} {command : String}
    {isPipeline : Bool} {members : List Member} {e : TableFull} :
    t.insert pgid status command isPipeline members = .error e ↔
      t.capacity ≤ t.size ∧ e = ⟨t.capacity⟩ := by
  unfold insert
  split
  · simp_all [eq_comm]
  · simp only [reduceCtorEq, false_iff, not_and]
    omega

theorem insert_of_lt {t : Table} (h : t.size < t.capacity) (pgid : Pid) (status : Job.Status)
    (command : String) (isPipeline : Bool) (members : List Member) :
    t.insert pgid status command isPipeline members =
      .ok (⟨t.nextId⟩, { t with
        jobs := place (.enrol ⟨t.nextId⟩ pgid status command isPipeline members) t.jobs
        nextId := t.nextId + 1 }) := by
  simp [insert, Nat.not_le.mpr h, Job.enrol]

theorem eq_of_insert_eq_ok {t t' : Table} {pgid : Pid} {status : Job.Status} {command : String}
    {isPipeline : Bool} {members : List Member} {id : JobId}
    (h : t.insert pgid status command isPipeline members = .ok (id, t')) :
    t.size < t.capacity ∧ id = ⟨t.nextId⟩ ∧ t' = { t with
      jobs := place (.enrol ⟨t.nextId⟩ pgid status command isPipeline members) t.jobs
      nextId := t.nextId + 1 } := by
  by_cases hlt : t.size < t.capacity
  · rw [insert_of_lt hlt] at h
    simp only [Except.ok.injEq, Prod.mk.injEq] at h
    exact ⟨hlt, h.1.symm, h.2.symm⟩
  · simp [insert, Nat.not_lt.mp hlt] at h

theorem mem_place_of_mem {j k : Job} {l : List Job} (hk : k ∈ place j l) : k = j ∨ k ∈ l := by
  induction l with
  | nil => simpa [place] using hk
  | cons a l ih =>
      unfold place at hk
      split at hk
      · simpa using hk
      · split at hk
        · simp only [List.mem_cons] at hk
          rcases hk with rfl | hk
          · exact .inl rfl
          · exact .inr (List.mem_cons_of_mem a hk)
        · simp only [List.mem_cons] at hk
          rcases hk with rfl | hk
          · exact .inr List.mem_cons_self
          · exact (ih hk).imp id (List.mem_cons_of_mem a)

theorem length_place_le (j : Job) (l : List Job) : (place j l).length ≤ l.length + 1 := by
  induction l with
  | nil => simp [place]
  | cons a l ih =>
      unfold place
      split
      · simp
      · split <;> simp [ih]

theorem length_place_of_not_mem {j : Job} {l : List Job} (hj : ∀ k ∈ l, k.id ≠ j.id) :
    (place j l).length = l.length + 1 := by
  induction l with
  | nil => simp [place]
  | cons a l ih =>
      have ha : j.id ≠ a.id := fun h => hj a List.mem_cons_self h.symm
      unfold place
      split
      · simp
      · -- `split` has already discarded the branch of a job with the same number
        simp [ih fun k hk => hj k (List.mem_cons_of_mem a hk)]

/-- Placing a job whose number no job has adds it and keeps every other job. -/
theorem mem_place_of_fresh {j k : Job} {l : List Job} (hj : ∀ a ∈ l, a.id ≠ j.id) :
    k ∈ place j l ↔ k = j ∨ k ∈ l := by
  induction l with
  | nil => simp [place]
  | cons a l ih =>
      have ha : j.id ≠ a.id := fun h => hj a List.mem_cons_self h.symm
      have ih := ih fun b hb => hj b (List.mem_cons_of_mem a hb)
      unfold place
      split
      · simp
      · simp only [List.mem_cons, ih]
        tauto

/-! ## Sorted tables -/

theorem pairwise_place {j : Job} {l : List Job}
    (hl : l.Pairwise fun a b => a.id.toNat < b.id.toNat) :
    (place j l).Pairwise fun a b => a.id.toNat < b.id.toNat := by
  induction l with
  | nil => simp [place]
  | cons a l ih =>
      rw [List.pairwise_cons] at hl
      unfold place
      split
      · rename_i hlt
        have hlt : j.id.toNat < a.id.toNat := UInt32.lt_iff_toNat_lt.mp hlt
        refine List.pairwise_cons.mpr ⟨fun k hk => ?_, List.pairwise_cons.mpr hl⟩
        rcases List.mem_cons.mp hk with rfl | hk
        · exact hlt
        · exact Nat.lt_trans hlt (hl.1 k hk)
      · split
        · rename_i heq
          refine List.pairwise_cons.mpr ⟨fun k hk => ?_, hl.2⟩
          rw [heq]
          exact hl.1 k hk
        · rename_i hlt hne
          have hgt : a.id.toNat < j.id.toNat := by
            have hne : j.id.toNat ≠ a.id.toNat := fun h => hne (JobId.eq_iff_toNat_eq.mpr h)
            have hle : ¬ j.id.toNat < a.id.toNat := fun h => hlt (UInt32.lt_iff_toNat_lt.mpr h)
            omega
          refine List.pairwise_cons.mpr ⟨fun k hk => ?_, ih hl.2⟩
          rcases mem_place_of_mem hk with rfl | hk
          · exact hgt
          · exact hl.1 k hk

/-- In a sorted table a number names at most one job. -/
theorem Sorted.eq_of_id_eq {t : Table} (hs : t.Sorted) {j k : Job} (hj : j ∈ t.jobs)
    (hk : k ∈ t.jobs) (h : j.id = k.id) : j = k := by
  obtain ⟨jobs, nextId, capacity⟩ := t
  unfold Sorted at hs
  induction jobs with
  | nil => simp at hj
  | cons a l ih =>
      rw [List.pairwise_cons] at hs
      simp only [List.mem_cons] at hj hk
      rcases hj with hj | hj <;> rcases hk with hk | hk
      · rw [hj, hk]
      · exact absurd (hj ▸ h ▸ hs.1 k hk) (Nat.lt_irrefl _)
      · exact absurd (hk ▸ h ▸ hs.1 j hj) (Nat.lt_irrefl _)
      · exact ih hs.2 hj hk

theorem Sorted.replace {t : Table} (hs : t.Sorted) {id : JobId} {o : Option Job}
    (ho : ∀ k, o = some k → k.id = id) : (t.replace id o).Sorted := by
  refine hs.filterMap _ fun a a' hlt b hb b' hb' => ?_
  have keep : ∀ x y, (if x.id = id then o else some x) = some y → y.id = x.id := by
    intro x y hy
    by_cases hx : x.id = id
    · rw [if_pos hx] at hy
      rw [ho y hy, hx]
    · rw [if_neg hx, Option.some.injEq] at hy
      rw [hy]
  rw [keep a b hb, keep a' b' hb']
  exact hlt

theorem mem_pruneDone {t : Table} {k : Job} :
    k ∈ t.pruneDone.2.jobs ↔ k ∈ t.jobs ∧ k.status ≠ .done := by
  simp [pruneDone]

theorem Sorted.pruneDone {t : Table} (hs : t.Sorted) : t.pruneDone.2.Sorted :=
  List.Pairwise.filter _ hs

@[simp] theorem pruneDone_capacity (t : Table) : t.pruneDone.2.capacity = t.capacity := rfl

@[simp] theorem pruneDone_nextId (t : Table) : t.pruneDone.2.nextId = t.nextId := rfl

/-- `pruneDone` counts nothing when no job is done. -/
theorem pruneDone_fst_eq_zero {t : Table} (h : ∀ k ∈ t.jobs, k.status ≠ .done) :
    t.pruneDone.1 = 0 := by
  have hkeep : t.jobs.filter (·.status ≠ .done) = t.jobs :=
    List.filter_eq_self.mpr fun k hk => by simpa using h k hk
  simp only [pruneDone]
  rw [hkeep, Nat.sub_self]

end Table

end JobControl
