import JobControl.Proofs.Table.Members
import JobControl.Proofs.Table.Notices
import JobControl.Shell.Reap

/-!
# Where a collected change goes

A collection applies each report with `Table.absorb`. The report of a pid goes to the group of
the lowest-numbered job that lists the pid among its members, exited members included; only a
pid that no job lists sends the shell to ask the system for its group (`absorb_of_findByMember`).

So a report of a live member `p` of a job `j`, in a table whose jobs have distinct groups, reaches
`j` exactly when no job numbered below `j` lists `p`, even as a member that has exited
(`absorb_reaches_owner_iff`). It then changes `j` alone and only through `p`. A pid that the
system handed out again after reaping it from an older job is the case where this fails: the
report goes to the older job, reviving its stale member, and `j` never sees the change
(`reused_pid_report_misses_its_job`).

* `Sorted.find?_eq_some_iff`: in a table kept in number order, the first job with a property is
  the lowest-numbered one;
* `mark_member_frame`: `mark` on a member of a job its group names changes that job alone, as
  `markMember` says, and reports only about it.
-/

namespace JobControl

@[simp] theorem Sys.pure_eq_done {α : Type} (a : α) : (pure a : Sys α) = Sys.done a := rfl

namespace Table

/-- In a table kept in number order, the first job with a property is the lowest-numbered one. -/
theorem Sorted.find?_eq_some_iff {t : Table} (hs : t.Sorted) {P : Job → Bool} {j : Job}
    (hj : j ∈ t.jobs) :
    t.jobs.find? P = some j ↔ P j = true ∧ ∀ k ∈ t.jobs, k.id.toNat < j.id.toNat → P k = false := by
  constructor
  · intro h
    obtain ⟨hPj, as, bs, heq, has⟩ := List.find?_eq_some_iff_append.mp h
    have hs : (as ++ j :: bs).Pairwise fun a b => a.id.toNat < b.id.toNat := by
      rw [← heq]
      exact hs
    refine ⟨hPj, fun k hk hlt => ?_⟩
    rw [heq] at hk
    rcases List.mem_append.mp hk with hk | hk
    · simpa using has k hk
    · rcases List.mem_cons.mp hk with rfl | hk
      · exact absurd hlt (Nat.lt_irrefl _)
      · have := (List.pairwise_cons.mp (List.pairwise_append.mp hs).2.1).1 k hk
        omega
  · rintro ⟨hPj, hlow⟩
    obtain ⟨as, bs, heq⟩ := List.append_of_mem hj
    have hs : (as ++ j :: bs).Pairwise fun a b => a.id.toNat < b.id.toNat := by
      rw [← heq]
      exact hs
    refine List.find?_eq_some_iff_append.mpr ⟨hPj, as, bs, heq, fun a ha => ?_⟩
    have hlt : a.id.toNat < j.id.toNat := (List.pairwise_append.mp hs).2.2 a ha j List.mem_cons_self
    simp [hlow a (heq ▸ List.mem_append_left _ ha) hlt]

theorem groupFor_of_findByMember {t : Table} {p : Pid} {k : Job} (h : t.findByMember p = some k) :
    t.groupFor p = pure k.pgid := by
  simp [groupFor, h]

/-- The report of a pid that a job lists goes to the group of the lowest-numbered such job, with
no question to the system. -/
theorem absorb_of_findByMember {t : Table} {r : Sys.Polled} {p : Pid} {e : Member.Event}
    (hr : r.change? = some (p, e)) {k : Job} (hk : t.findByMember p = some k) (ns : List Notice) :
    absorb (t, ns) r = pure ((t.mark k.pgid p e).2, ns ++ (t.mark k.pgid p e).1.toList) := by
  have hmem : k ∈ t.jobs := List.mem_of_find?_eq_some hk
  obtain ⟨k', hk'⟩ : ∃ k', t.findByGroup k.pgid = some k' :=
    Option.ne_none_iff_exists'.mp fun h => by simpa using List.find?_eq_none.mp h k hmem
  simp only [absorb, hr, groupFor_of_findByMember hk, Sys.pure_eq_done, Sys.done_bind, hk']

/-- `mark` on a member of the job its group names changes that job alone, and reports only on it. -/
theorem mark_member_frame {t : Table} {g : Pid} {j : Job} (hg : t.findByGroup g = some j)
    {p : Pid} (hp : j.hasMember p = true) (e : Member.Event) :
    (∀ k ∈ t.jobs, k.id ≠ j.id → k ∈ (t.mark g p e).2.jobs) ∧
      (∀ k ∈ (t.mark g p e).2.jobs, k.id ≠ j.id → k ∈ t.jobs) ∧
      (∀ k ∈ (t.mark g p e).2.jobs, k.id = j.id →
        k = { j.markMember p e.state with status := (j.markMember p e.state).derivedStatus }) ∧
      (∀ n, (t.mark g p e).1 = some n → n.id = j.id ∧ n.command = j.command) := by
  rw [mark_of_member hg hp e]
  refine ⟨fun k hk hne => mem_replace.mpr (.inl ⟨hk, hne⟩), fun k hk hne => ?_,
    fun k hk hid => ?_, fun n hn => ?_⟩
  · rcases mem_replace.mp hk with ⟨hk, -⟩ | ⟨hmove, -⟩
    · exact hk
    · exact absurd ((Job.eq_of_moveTo_eq_some hmove).2 ▸ rfl) hne
  · rcases mem_replace.mp hk with ⟨-, hne⟩ | ⟨hmove, -⟩
    · exact absurd hid hne
    · exact (Job.eq_of_moveTo_eq_some hmove).2
  · rcases Notice.ofMove_eq_some_iff.mp hn with ⟨-, rfl⟩ | ⟨-, -, rfl⟩ <;> exact ⟨rfl, rfl⟩

/-- A report about a live member `p` of `j` reaches `j` exactly when no lower-numbered job lists
`p`; otherwise it goes to the lowest-numbered job that does. -/
theorem absorb_reaches_owner_iff {t : Table} (hs : t.Sorted) (hg : (t.jobs.map (·.pgid)).Nodup)
    {j : Job} (hj : j ∈ t.jobs) {p : Pid} (hp : p ∈ j.livePids) {r : Sys.Polled}
    {e : Member.Event} (hr : r.change? = some (p, e)) (ns : List Notice) :
    (t.groupFor p = pure j.pgid ↔ ∀ k ∈ t.jobs, k.id.toNat < j.id.toNat → k.hasMember p = false) ∧
      ((∀ k ∈ t.jobs, k.id.toNat < j.id.toNat → k.hasMember p = false) →
        absorb (t, ns) r = pure ((t.mark j.pgid p e).2, ns ++ (t.mark j.pgid p e).1.toList) ∧
        (∀ k ∈ t.jobs, k.id ≠ j.id → k ∈ (t.mark j.pgid p e).2.jobs) ∧
        (∀ k ∈ (t.mark j.pgid p e).2.jobs, k.id ≠ j.id → k ∈ t.jobs) ∧
        (∀ k ∈ (t.mark j.pgid p e).2.jobs, k.id = j.id →
          k = { j.markMember p e.state with status := (j.markMember p e.state).derivedStatus }) ∧
        (∀ n, (t.mark j.pgid p e).1 = some n → n.id = j.id ∧ n.command = j.command)) ∧
      (∀ k ∈ t.jobs, k.id.toNat < j.id.toNat → k.hasMember p = true →
        ∃ k₀ ∈ t.jobs, k₀.id.toNat < j.id.toNat ∧ t.findByMember p = some k₀ ∧
          absorb (t, ns) r = pure ((t.mark k₀.pgid p e).2, ns ++ (t.mark k₀.pgid p e).1.toList) ∧
          j ∈ (t.mark k₀.pgid p e).2.jobs) := by
  have hm : j.hasMember p = true := Job.hasMember_of_mem_livePids hp
  have hfirst : t.findByMember p = some j ↔
      ∀ k ∈ t.jobs, k.id.toNat < j.id.toNat → k.hasMember p = false :=
    (hs.find?_eq_some_iff hj).trans ⟨fun h => h.2, fun h => ⟨hm, h⟩⟩
  obtain ⟨k₀, hk₀⟩ : ∃ k₀, t.findByMember p = some k₀ :=
    Option.ne_none_iff_exists'.mp fun h => by simpa [hm] using List.find?_eq_none.mp h j hj
  have hk₀mem : k₀ ∈ t.jobs := List.mem_of_find?_eq_some hk₀
  have hk₀p : k₀.hasMember p = true := by
    have := List.find?_some (show t.jobs.find? (·.hasMember p) = some k₀ from hk₀)
    simpa using this
  refine ⟨?_, fun hlow => ?_, fun k hk hlt hkp => ?_⟩
  · rw [← hfirst, groupFor_of_findByMember hk₀, hk₀, Sys.pure_eq_done, Sys.pure_eq_done,
      Sys.done.injEq, Option.some.injEq]
    exact ⟨fun h => List.inj_on_of_nodup_map hg hk₀mem hj h, fun h => h ▸ rfl⟩
  · exact ⟨absorb_of_findByMember hr (hfirst.mpr hlow) ns,
      mark_member_frame (findByGroup_of_nodup hg hj) hm e⟩
  · -- `k` lists `p` below `j`, so the first job to list `p` is below `j` too
    have hk₀low := ((hs.find?_eq_some_iff hk₀mem).mp hk₀).2
    have hk₀lt : k₀.id.toNat < j.id.toNat := by
      by_contra hge
      have := hk₀low k hk (by omega)
      rw [hkp] at this
      cases this
    have hne : j.id ≠ k₀.id := fun h => Nat.lt_irrefl _ (h ▸ hk₀lt)
    exact ⟨k₀, hk₀mem, hk₀lt, hk₀, absorb_of_findByMember hr hk₀ ns,
      (mark_member_frame (findByGroup_of_nodup hg hk₀mem) hk₀p e).1 j hj hne⟩

/-- With job 1 listing pid 7 as exited and job 2 running 200 and 7, the exit of job 2's leader
200, which no older job lists, reaches job 2. -/
theorem leader_exit_reaches_its_job :
    let t := run (withCapacity 20)
      [.insert 100 .running "a | b" true [⟨100, .running⟩, ⟨7, .exited⟩],
       .insert 200 .running "c | d" true [⟨200, .running⟩, ⟨7, .running⟩]]
    absorb (t, []) (.exited 200 0) =
      pure ((t.mark 200 200 .exited).2, [] ++ (t.mark 200 200 .exited).1.toList) :=
  ((@absorb_reaches_owner_iff _ ((sorted_withCapacity 20).run _) (by decide)
    ⟨⟨2⟩, 200, .running, "c | d", true, [⟨200, .running⟩, ⟨7, .running⟩]⟩ (by decide) 200
    (by decide) (.exited 200 0) .exited rfl []).2.1 (by decide)).1

/-- Pid 7, exited in job 1 and handed out again to job 2: its exit goes to job 1 and job 2 keeps
7 running. -/
theorem reused_pid_report_misses_its_job :
    let t := run (withCapacity 20)
      [.insert 100 .running "a | b" true [⟨100, .running⟩, ⟨7, .exited⟩],
       .insert 200 .running "c | d" true [⟨200, .running⟩, ⟨7, .running⟩]]
    let j : Job := ⟨⟨2⟩, 200, .running, "c | d", true, [⟨200, .running⟩, ⟨7, .running⟩]⟩
    (t.jobs.map (·.pgid)).Nodup ∧ j ∈ t.jobs ∧ (7 : Pid) ∈ j.livePids ∧
      t.groupFor 7 = pure 100 ∧ absorb (t, []) (.exited 7 0) = pure (t, []) ∧
      absorb (t, []) (.exited 7 0) ≠
        pure ((t.mark j.pgid 7 .exited).2, (t.mark j.pgid 7 .exited).1.toList) := by
  intro t j
  have habsorb : absorb (t, []) (.exited 7 0) = pure (t, []) := rfl
  refine ⟨by decide, by decide, by decide, rfl, habsorb, ?_⟩
  rw [habsorb, Sys.pure_eq_done, Sys.pure_eq_done, Ne, Sys.done.injEq, Prod.mk.injEq]
  exact fun h => absurd h.1.symm (by decide)

end Table

end JobControl
