import JobControl.Proofs.Table.Members

/-!
# Events of different processes, in either order

A collection of child changes reports simultaneous changes in an order the system chooses. In a
table whose jobs have distinct groups and pids, two events of different live processes leave the
same table in either order:

* `Job.markMember_comm`: marking two different pids commutes;
* `replace_comm`: moves of jobs with different numbers commute;
* `mark_mark_same_job`: two events of one job leave it with the status of its members after
  both, and only the second can take it out;
* `mark_mark_comm`: on every table a run reaches, the two orders leave one table; events of two
  jobs give each its own notice in either order, and events of one job give a done notice in
  one order exactly when they do in the other; only stopped notices may differ, as the example
  after it shows.
-/

namespace JobControl

namespace Job

theorem markMember_comm (j : Job) {p₁ p₂ : Pid} (hne : p₁ ≠ p₂) (s₁ s₂ : Member.State) :
    (j.markMember p₁ s₁).markMember p₂ s₂ = (j.markMember p₂ s₂).markMember p₁ s₁ := by
  obtain ⟨id, pgid, status, command, isPipeline, members⟩ := j
  simp only [markMember, Job.mk.injEq, true_and]
  induction members with
  | nil => rfl
  | cons m ms ih =>
      by_cases h₁ : m.pid = p₁
      · simp [markMember.go, h₁, hne]
      · by_cases h₂ : m.pid = p₂
        · simp [markMember.go, h₂, Ne.symm hne]
        · simp [markMember.go, h₁, h₂, ih]

theorem markMember_withStatus (j : Job) (x : Status) (q : Pid) (st : Member.State) :
    ({ j with status := x } : Job).markMember q st = { j.markMember q st with status := x } := rfl

/-- A live member other than the one marked stays live, so the job is not done. -/
theorem derivedStatus_markMember_ne_done {j : Job} (h : (j.members.map (·.pid)).Nodup)
    {p₁ p₂ : Pid} (hp₂ : p₂ ∈ j.livePids) (hne : p₁ ≠ p₂) (st : Member.State) :
    (j.markMember p₁ st).derivedStatus ≠ .done := by
  obtain ⟨m, hm, hlive, rfl⟩ := mem_livePids.mp hp₂
  refine (derivedStatus_ne_done_iff _).mpr ⟨m, ?_, hlive⟩
  rw [markMember_members h]
  simpa [Ne.symm hne] using List.mem_map_of_mem (f := fun m =>
    if m.pid = p₁ then { m with state := st } else m) hm

theorem mem_livePids_markMember {j : Job} (h : (j.members.map (·.pid)).Nodup) {p₁ p₂ : Pid}
    (hp₂ : p₂ ∈ j.livePids) (hne : p₁ ≠ p₂) (st : Member.State) :
    p₂ ∈ (j.markMember p₁ st).livePids := by
  obtain ⟨m, hm, hlive, rfl⟩ := mem_livePids.mp hp₂
  refine mem_livePids.mpr ⟨m, ?_, hlive, rfl⟩
  rw [markMember_members h]
  simpa [Ne.symm hne] using List.mem_map_of_mem (f := fun m =>
    if m.pid = p₁ then { m with state := st } else m) hm

end Job

namespace Notice

/-- A move gives a done notice exactly when it is a move to done. -/
theorem filter_ofMove_done (j : Job) (s : Job.Status) :
    (ofMove j s).toList.filter (·.kind = .done) = if s = .done then [ofJob j .done] else [] := by
  cases s with
  | done => simp [ofMove, ofJob]
  | stopped => by_cases h : j.status = .stopped <;> simp [ofMove, ofJob, h]
  | running => simp [ofMove]

end Notice

namespace Table

/-- Moves of jobs with different numbers commute. -/
theorem replace_comm (t : Table) {id id' : JobId} (hne : id ≠ id') {o o' : Option Job}
    (ho : ∀ a, o = some a → a.id = id) (ho' : ∀ a, o' = some a → a.id = id') :
    (t.replace id o).replace id' o' = (t.replace id' o').replace id o := by
  simp only [replace, List.filterMap_filterMap, Table.mk.injEq, and_true]
  refine List.filterMap_congr fun x _ => ?_
  by_cases hx : x.id = id
  · -- `x` goes to `o` in both orders, and what `o` holds keeps its number
    cases o with
    | none => simp [hx, hne]
    | some a => simp [hx, ho a rfl, hne]
  · by_cases hx' : x.id = id'
    · cases o' with
      | none => simp [hx', Ne.symm hne]
      | some a => simp [hx', ho' a rfl, Ne.symm hne]
    · simp [hx, hx']

/-- Two events of different live members of one job: the job ends with the status its members
imply after both, and a done notice can only come from the second. -/
theorem mark_mark_same_job {t : Table} (hs : t.Sorted) (hd : t.Distinct) {j : Job} (hj : j ∈ t.jobs)
    {p₁ p₂ : Pid} (hp₂ : p₂ ∈ j.livePids) (hm₁ : j.hasMember p₁ = true) (hne : p₁ ≠ p₂)
    (e₁ e₂ : Member.Event) :
    ((t.mark j.pgid p₁ e₁).2.mark j.pgid p₂ e₂).2 =
        t.replace j.id (((j.markMember p₁ e₁.state).markMember p₂ e₂.state).moveTo
          ((j.markMember p₁ e₁.state).markMember p₂ e₂.state).derivedStatus) ∧
      ((t.mark j.pgid p₁ e₁).1.toList ++ ((t.mark j.pgid p₁ e₁).2.mark j.pgid p₂ e₂).1.toList).filter
          (·.kind = .done) =
        if ((j.markMember p₁ e₁.state).markMember p₂ e₂.state).derivedStatus = .done then
          [.ofJob j .done] else [] := by
  have hpids := hd.pids j hj
  have hdone₁ := Job.derivedStatus_markMember_ne_done hpids hp₂ hne e₁.state
  have hfirst : t.mark j.pgid p₁ e₁ = (Notice.ofMove j (j.markMember p₁ e₁.state).derivedStatus,
      t.replace j.id (some { j.markMember p₁ e₁.state with
        status := (j.markMember p₁ e₁.state).derivedStatus })) := by
    rw [mark_of_member (hd.findByGroup hj) hm₁ e₁, Job.moveTo_of_ne_done hdone₁]
  have hj' : { j.markMember p₁ e₁.state with status := (j.markMember p₁ e₁.state).derivedStatus } ∈
      (t.mark j.pgid p₁ e₁).2.jobs := by
    rw [hfirst]
    exact mem_replace.mpr (.inr ⟨rfl, mem_ids.mpr ⟨j, hj, rfl⟩⟩)
  have hfind : (t.mark j.pgid p₁ e₁).2.findByGroup j.pgid = some { j.markMember p₁ e₁.state with
      status := (j.markMember p₁ e₁.state).derivedStatus } :=
    (hd.mark hs j.pgid p₁ e₁).findByGroup hj'
  have hm₂ : ({ j.markMember p₁ e₁.state with
      status := (j.markMember p₁ e₁.state).derivedStatus } : Job).hasMember p₂ = true :=
    Job.hasMember_of_mem_livePids (Job.mem_livePids_markMember hpids hp₂ hne e₁.state)
  rw [mark_of_member hfind hm₂ e₂, Job.markMember_withStatus, Job.moveTo_withStatus]
  constructor
  · show (t.mark j.pgid p₁ e₁).2.replace j.id _ = _
    rw [hfirst, replace_replace_of_some (show ({ j.markMember p₁ e₁.state with
      status := (j.markMember p₁ e₁.state).derivedStatus } : Job).id = j.id from rfl)]
    rfl
  · rw [hfirst]
    simp only [List.filter_append, Notice.filter_ofMove_done, hdone₁, if_false, List.nil_append]
    rfl

/-- Events of two different live members leave the same table in either order; only stopped notices
of one job may differ. -/
theorem mark_mark_comm (c : Nat) (ops : List Op) (hd : (run (withCapacity c) ops).Distinct)
    {j₁ j₂ : Job} (hj₁ : j₁ ∈ (run (withCapacity c) ops).jobs)
    (hj₂ : j₂ ∈ (run (withCapacity c) ops).jobs) {p₁ p₂ : Pid} (hp₁ : p₁ ∈ j₁.livePids)
    (hp₂ : p₂ ∈ j₂.livePids) (hne : p₁ ≠ p₂) (e₁ e₂ : Member.Event) :
    let t := run (withCapacity c) ops
    let a₁ := t.mark j₁.pgid p₁ e₁
    let a₂ := a₁.2.mark j₂.pgid p₂ e₂
    let b₂ := t.mark j₂.pgid p₂ e₂
    let b₁ := b₂.2.mark j₁.pgid p₁ e₁
    a₂.2 = b₁.2 ∧
      (j₁.pgid ≠ j₂.pgid → a₁.1 = b₁.1 ∧ a₂.1 = b₂.1) ∧
      (j₁.pgid = j₂.pgid → (a₁.1.toList ++ a₂.1.toList).filter (·.kind = .done) =
        (b₂.1.toList ++ b₁.1.toList).filter (·.kind = .done)) := by
  intro t a₁ a₂ b₂ b₁
  have hs : t.Sorted := (sorted_withCapacity c).run ops
  have hm₁ := Job.hasMember_of_mem_livePids hp₁
  have hm₂ := Job.hasMember_of_mem_livePids hp₂
  by_cases hg : j₁.pgid = j₂.pgid
  · obtain rfl : j₁ = j₂ := hd.eq_of_pgid_eq hj₁ hj₂ hg
    obtain ⟨hA, hA'⟩ := mark_mark_same_job hs hd hj₁ hp₂ hm₁ hne e₁ e₂
    obtain ⟨hB, hB'⟩ := mark_mark_same_job hs hd hj₁ hp₁ hm₂ (Ne.symm hne) e₂ e₁
    rw [Job.markMember_comm j₁ (Ne.symm hne)] at hB hB'
    exact ⟨hA.trans hB.symm, fun h => absurd hg h, fun _ => hA'.trans hB'.symm⟩
  · -- two jobs: each call reaches its own job as it was, whatever the other did
    have hid : j₁.id ≠ j₂.id := fun h => hg (by rw [hs.eq_of_id_eq hj₁ hj₂ h])
    have h₁ : t.mark j₁.pgid p₁ e₁ = (Notice.ofMove j₁ _, t.replace j₁.id _) :=
      mark_of_member (hd.findByGroup hj₁) hm₁ e₁
    have h₂ : t.mark j₂.pgid p₂ e₂ = (Notice.ofMove j₂ _, t.replace j₂.id _) :=
      mark_of_member (hd.findByGroup hj₂) hm₂ e₂
    have hj₂' : j₂ ∈ (t.mark j₁.pgid p₁ e₁).2.jobs := by
      rw [h₁]
      exact mem_replace.mpr (.inl ⟨hj₂, Ne.symm hid⟩)
    have hj₁' : j₁ ∈ (t.mark j₂.pgid p₂ e₂).2.jobs := by
      rw [h₂]
      exact mem_replace.mpr (.inl ⟨hj₁, hid⟩)
    have h₂' : (t.mark j₁.pgid p₁ e₁).2.mark j₂.pgid p₂ e₂ =
        (Notice.ofMove j₂ _, (t.mark j₁.pgid p₁ e₁).2.replace j₂.id _) :=
      mark_of_member ((hd.mark hs j₁.pgid p₁ e₁).findByGroup hj₂') hm₂ e₂
    have h₁' : (t.mark j₂.pgid p₂ e₂).2.mark j₁.pgid p₁ e₁ =
        (Notice.ofMove j₁ _, (t.mark j₂.pgid p₂ e₂).2.replace j₁.id _) :=
      mark_of_member ((hd.mark hs j₂.pgid p₂ e₂).findByGroup hj₁') hm₁ e₁
    refine ⟨?_, fun _ => ⟨?_, ?_⟩, fun h => absurd h hg⟩
    · show ((t.mark j₁.pgid p₁ e₁).2.mark j₂.pgid p₂ e₂).2 =
        ((t.mark j₂.pgid p₂ e₂).2.mark j₁.pgid p₁ e₁).2
      rw [h₂', h₁', h₁, h₂]
      refine replace_comm t hid (fun a ha => ?_) (fun a ha => ?_)
      · rw [(Job.eq_of_moveTo_eq_some ha).2]
        rfl
      · rw [(Job.eq_of_moveTo_eq_some ha).2]
        rfl
    · show (t.mark j₁.pgid p₁ e₁).1 = ((t.mark j₂.pgid p₂ e₂).2.mark j₁.pgid p₁ e₁).1
      rw [h₁, h₁']
    · show ((t.mark j₁.pgid p₁ e₁).2.mark j₂.pgid p₂ e₂).1 = (t.mark j₂.pgid p₂ e₂).1
      rw [h₂, h₂']

/-- A stopped job with a running and a stopped member: the first stopped and the second
continued, in either order, leave one table. -/
theorem stop_and_continue_commute :
    let t := run (withCapacity 20) [.insert 10 .stopped "a | b" true [⟨10, .running⟩, ⟨11, .stopped⟩]]
    ((t.mark 10 10 .stopped).2.mark 10 11 .continued).2 =
        ((t.mark 10 11 .continued).2.mark 10 10 .stopped).2 ∧
      ((10 : Pid) ≠ 10 → (t.mark 10 10 .stopped).1 = ((t.mark 10 11 .continued).2.mark 10 10 .stopped).1 ∧
        ((t.mark 10 10 .stopped).2.mark 10 11 .continued).1 = (t.mark 10 11 .continued).1) ∧
      ((10 : Pid) = 10 → ((t.mark 10 10 .stopped).1.toList ++
          ((t.mark 10 10 .stopped).2.mark 10 11 .continued).1.toList).filter (·.kind = .done) =
        ((t.mark 10 11 .continued).1.toList ++
          ((t.mark 10 11 .continued).2.mark 10 10 .stopped).1.toList).filter (·.kind = .done)) :=
  @mark_mark_comm 20 [.insert 10 .stopped "a | b" true [⟨10, .running⟩, ⟨11, .stopped⟩]]
    ⟨by decide, by decide⟩ ⟨⟨1⟩, 10, .stopped, "a | b", true, [⟨10, .running⟩, ⟨11, .stopped⟩]⟩
    ⟨⟨1⟩, 10, .stopped, "a | b", true, [⟨10, .running⟩, ⟨11, .stopped⟩]⟩ (by decide) (by decide)
    10 11 (by decide) (by decide) (by decide) .stopped .continued

/-- The stopped notices of the two orders differ: stopping the running member first reports
nothing, continuing the stopped member first makes the job run, and the stop then reports it. -/
example :
    let t := run (withCapacity 20) [.insert 10 .stopped "a | b" true [⟨10, .running⟩, ⟨11, .stopped⟩]]
    (t.mark 10 10 .stopped).1.toList ++ ((t.mark 10 10 .stopped).2.mark 10 11 .continued).1.toList = [] ∧
      (t.mark 10 11 .continued).1.toList ++ ((t.mark 10 11 .continued).2.mark 10 10 .stopped).1.toList =
        [⟨⟨1⟩, .stopped, "a | b"⟩] := by
  decide

end Table

end JobControl
