import JobControl.Proofs.Table.Basic

/-!
# What a change of status can touch

`setStatus g s` and `mark g pid e` look the job up by its group and then change it by number. In a
table kept in order of number, whatever it holds (groups shared by several jobs, pids repeated
among members), the job they reach is the lowest-numbered one of the group (`FirstOfGroup`,
`findByGroup_eq_some_iff`), and nothing else moves:

* `ChangesOnly t t' j R`: `t'` is `t` with at most `j` changed or taken out, the job in its place
  standing to `j` in `R`; the other jobs, the counter and the capacity are kept.
* `KeepsExited`: the members stay the same processes, and an exited one stays as it was; what
  `setStatus` does to them (`settle_keepsExited`).
* `SetsFirst p st`: only the first member of pid `p` changes, to state `st`; what `mark` does to a
  member (`markMember_setsFirst`).

`changes_stay_with_first_of_group` puts these together: a group no job has changes nothing, and
otherwise only its lowest-numbered job changes, its members as above.
-/

namespace JobControl

namespace Member

/-- `ms'` has the processes of `ms`, one for one and in order, and each member of `ms` that has
exited is kept as it was. -/
def KeepsExited (ms ms' : List Member) : Prop :=
  List.Forall₂ (fun m m' => m'.pid = m.pid ∧ (m.state = .exited → m' = m)) ms ms'

/-- `ms'` is `ms` with its first member of pid `p` put in state `st` and every other member kept. -/
def SetsFirst (p : Pid) (st : State) (ms ms' : List Member) : Prop :=
  ∃ pre m post, ms = pre ++ m :: post ∧ (∀ x ∈ pre, x.pid ≠ p) ∧ m.pid = p ∧
    ms' = pre ++ { m with state := st } :: post

end Member

namespace Job

open Member

theorem settle_keepsExited (j : Job) (s : Status) : KeepsExited j.members (j.settle s).members := by
  cases s with
  | done => exact List.forall₂_same.mpr fun m _ => ⟨rfl, fun _ => rfl⟩
  | running | stopped =>
    refine List.forall₂_map_right_iff.mpr (List.forall₂_same.mpr fun m _ => ?_)
    by_cases hm : m.state = .exited <;> simp [hm]

theorem markMember_go_setsFirst {p : Pid} {st : State} {ms : List Member}
    (h : ms.any (·.pid = p) = true) : SetsFirst p st ms (markMember.go p st ms) := by
  induction ms with
  | nil => simp at h
  | cons m ms ih =>
    by_cases hm : m.pid = p
    · exact ⟨[], m, ms, rfl, by simp, hm, by simp [markMember.go, hm]⟩
    · have hrest : ms.any (·.pid = p) = true := by simpa [hm] using h
      obtain ⟨pre, x, post, rfl, hpre, hx, hgo⟩ := ih hrest
      refine ⟨m :: pre, x, post, rfl, ?_, hx, by simp [markMember.go, hm, hgo]⟩
      intro y hy
      rcases List.mem_cons.mp hy with rfl | hy
      · exact hm
      · exact hpre y hy

theorem markMember_setsFirst (j : Job) {p : Pid} (h : j.hasMember p = true) (st : State) :
    SetsFirst p st j.members (j.markMember p st).members :=
  markMember_go_setsFirst h

end Job

namespace Table

/-- `j` is the lowest-numbered job of group `g` in `t`. -/
def FirstOfGroup (t : Table) (g : Pid) (j : Job) : Prop :=
  j ∈ t.jobs ∧ j.pgid = g ∧ ∀ k ∈ t.jobs, k.pgid = g → j.id.toNat ≤ k.id.toNat

/-- `t'` is `t` with at most the job `j` changed or taken out: a job left in its place has its
number and stands to `j` in `R`, and every other job, the counter and the capacity are kept. -/
def ChangesOnly (t t' : Table) (j : Job) (R : Job → Job → Prop) : Prop :=
  ∃ o : Option Job, t' = t.replace j.id o ∧ ∀ k ∈ o, k.id = j.id ∧ R j k

variable {t : Table} {g : Pid} {j : Job}

theorem FirstOfGroup.unique (hs : t.Sorted) {k : Job} (hj : t.FirstOfGroup g j)
    (hk : t.FirstOfGroup g k) : j = k :=
  hs.eq_of_id_eq hj.1 hk.1 (JobId.eq_iff_toNat_eq.mpr
    (Nat.le_antisymm (hj.2.2 k hk.1 hk.2.1) (hk.2.2 j hj.1 hj.2.1)))

/-- Looking a group up finds its lowest-numbered job, the first of the group in table order. -/
theorem firstOfGroup_of_findByGroup (hs : t.Sorted) (h : t.findByGroup g = some j) :
    t.FirstOfGroup g j := by
  obtain ⟨hj, hg⟩ := findByGroup_mem h
  refine ⟨hj, hg, fun k hk hkg => ?_⟩
  obtain ⟨-, pre, post, hsplit, hpre⟩ := List.find?_eq_some_iff_append.mp h
  rw [hsplit] at hk
  rcases List.mem_append.mp hk with hk | hk
  · simpa [hkg] using hpre k hk
  · unfold Sorted at hs
    rw [hsplit, List.pairwise_append, List.pairwise_cons] at hs
    rcases List.mem_cons.mp hk with rfl | hk
    · exact Nat.le_refl _
    · exact Nat.le_of_lt (hs.2.1.1 k hk)

theorem findByGroup_eq_none_iff : t.findByGroup g = none ↔ ∀ k ∈ t.jobs, k.pgid ≠ g := by
  simp [findByGroup, List.find?_eq_none]

theorem findByGroup_eq_some_iff (hs : t.Sorted) : t.findByGroup g = some j ↔ t.FirstOfGroup g j := by
  refine ⟨firstOfGroup_of_findByGroup hs, fun hj => ?_⟩
  cases hfind : t.findByGroup g with
  | none => exact absurd hj.2.1 (findByGroup_eq_none_iff.mp hfind j hj.1)
  | some k => rw [(firstOfGroup_of_findByGroup hs hfind).unique hs hj]

/-- `setStatus` changes the lowest-numbered job of the group and keeps its exited members. -/
theorem setStatus_changesOnly (hs : t.Sorted) (hj : t.FirstOfGroup g j) (s : Job.Status) :
    ChangesOnly t (t.setStatus g s).2 j (fun j k => Member.KeepsExited j.members k.members) := by
  rw [setStatus_of_findByGroup ((findByGroup_eq_some_iff hs).mpr hj)]
  refine ⟨_, rfl, fun k hk => ?_⟩
  obtain ⟨-, rfl⟩ := Job.eq_of_moveTo_eq_some hk
  exact ⟨Job.settle_id j s, j.settle_keepsExited s⟩

/-- `mark` for a member changes the lowest-numbered job of the group, and in it only the first
member with that pid. -/
theorem mark_changesOnly_of_member (hs : t.Sorted) (hj : t.FirstOfGroup g j) {pid : Pid}
    (hm : j.hasMember pid = true) (e : Member.Event) :
    ChangesOnly t (t.mark g pid e).2 j
      (fun j k => Member.SetsFirst pid e.state j.members k.members) := by
  rw [mark_of_member ((findByGroup_eq_some_iff hs).mpr hj) hm]
  refine ⟨_, rfl, fun k hk => ?_⟩
  obtain ⟨-, rfl⟩ := Job.eq_of_moveTo_eq_some hk
  exact ⟨rfl, j.markMember_setsFirst hm e.state⟩

/-- `mark` for a pid that is no member acts as `setStatus` on the whole group. -/
theorem mark_changesOnly_of_not_member (hs : t.Sorted) (hj : t.FirstOfGroup g j) {pid : Pid}
    (hm : j.hasMember pid = false) (e : Member.Event) :
    ChangesOnly t (t.mark g pid e).2 j (fun j k => Member.KeepsExited j.members k.members) := by
  rw [mark_of_not_member ((findByGroup_eq_some_iff hs).mpr hj) hm]
  exact setStatus_changesOnly hs hj e.status

theorem changes_stay_with_first_of_group (hs : t.Sorted) (g : Pid) :
    ((∀ k ∈ t.jobs, k.pgid ≠ g) →
      ∀ s pid e, t.setStatus g s = (none, t) ∧ t.mark g pid e = (none, t)) ∧
    ∀ j, t.FirstOfGroup g j →
      (∀ s, ChangesOnly t (t.setStatus g s).2 j
        (fun j k => Member.KeepsExited j.members k.members)) ∧
      (∀ pid e, j.hasMember pid = true → ChangesOnly t (t.mark g pid e).2 j
        (fun j k => Member.SetsFirst pid e.state j.members k.members)) ∧
      ∀ pid e, j.hasMember pid = false → ChangesOnly t (t.mark g pid e).2 j
        (fun j k => Member.KeepsExited j.members k.members) := by
  refine ⟨fun hnone s pid e => ?_, fun j hj =>
    ⟨setStatus_changesOnly hs hj, fun _ e hm => mark_changesOnly_of_member hs hj hm e,
      fun _ e hm => mark_changesOnly_of_not_member hs hj hm e⟩⟩
  have hfind := findByGroup_eq_none_iff.mpr hnone
  exact ⟨setStatus_of_findByGroup_none hfind s, mark_of_findByGroup_none hfind pid e⟩

/-- Two jobs share group 7: a stop of the second member of the older one changes that member
only. -/
theorem stop_in_shared_group_changes_older_job :
    let older : Job := ⟨⟨1⟩, 7, .running, "a | b", true, [⟨7, .running⟩, ⟨8, .running⟩]⟩
    let newer : Job := ⟨⟨2⟩, 7, .running, "c", false, [⟨7, .running⟩]⟩
    let t : Table := ⟨[older, newer], 3, 20⟩
    t.Sorted ∧ t.FirstOfGroup 7 older ∧ older.hasMember 8 = true ∧
      ChangesOnly t (t.mark 7 8 .stopped).2 older
        (fun j k => Member.SetsFirst 8 Member.State.stopped j.members k.members) := by
  intro older newer t
  have hs : t.Sorted := by
    unfold Sorted
    decide
  have hfirst : t.FirstOfGroup 7 older := by
    unfold FirstOfGroup
    decide
  have hm : older.hasMember 8 = true := by decide
  exact ⟨hs, hfirst, hm, ((changes_stay_with_first_of_group hs 7).2 older hfirst).2.1 8 .stopped hm⟩

end Table

end JobControl
