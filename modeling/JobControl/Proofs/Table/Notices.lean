import JobControl.Proofs.Table.Numbering

/-!
# Notices

`setStatus` and `mark` answer with at most one notice. On every table a run reaches:

* `reports_setStatus`, `reports_mark`: a call gives the done notice of a job exactly when it takes
  that job out, the stopped notice of a job exactly when it makes the job stopped from another
  status, and nothing otherwise (`Reports`). Both rest on `reports_move`, about the one job a call
  reaches.

Over a run from an empty table in which fewer than 2^32 - 1 inserts succeed, numbers are never
handed out twice, and so (`notices_follow_jobs`):

* a job leaves the table only by a call that answers with its done notice, or by `pruneDone`;
* a number that has left never comes back (`not_mem_ids_run_take`), so each job leaves at most
  once and no two done notices carry one number;
* between two stopped notices of one job a call moves it from stopped to running
  (`running_between_stops`).
-/

namespace JobControl

namespace Notice

theorem ofJob_eq_ofJob {j k : Job} {a b : Kind} :
    ofJob j a = ofJob k b ↔ j.id = k.id ∧ a = b ∧ j.command = k.command := by
  simp [ofJob]

theorem ofMove_eq_some_iff {j : Job} {s : Job.Status} {n : Notice} :
    ofMove j s = some n ↔ (s = .done ∧ n = ofJob j .done) ∨
      (s = .stopped ∧ j.status ≠ .stopped ∧ n = ofJob j .stopped) := by
  cases s <;> simp [ofMove, eq_comm]

theorem ofMove_eq_none_or (j : Job) (s : Job.Status) :
    ofMove j s = none ∨ ofMove j s = some (ofJob j .done) ∨ ofMove j s = some (ofJob j .stopped) := by
  cases s with
  | done => exact .inr (.inl rfl)
  | stopped => by_cases h : j.status = .stopped <;> simp [ofMove, h]
  | running => exact .inl rfl

end Notice

namespace Table

/-- What a call that reaches jobs by group answers, going from `t` to `t'`: the done notice of a
job exactly when the job leaves, the stopped notice of a job exactly when it becomes stopped from
another status, and no other notice. -/
structure Reports (t t' : Table) (n : Option Notice) : Prop where
  done_iff : ∀ j ∈ t.jobs, n = some (.ofJob j .done) ↔ j.id ∉ t'.ids
  stopped_iff : ∀ j ∈ t.jobs, n = some (.ofJob j .stopped) ↔
    j.status ≠ .stopped ∧ ∃ k ∈ t'.jobs, k.id = j.id ∧ k.status = .stopped
  none_or : n = none ∨ ∃ j ∈ t.jobs, n = some (.ofJob j .done) ∨ n = some (.ofJob j .stopped)

/-- The jobs that a move of `j` leaves with a number: the others as they were, and `j`, moved,
unless it is done. -/
theorem exists_mem_replace_moveTo {t : Table} {j j' : Job} (hj : j ∈ t.jobs) (hid : j'.id = j.id)
    {s : Job.Status} {x : JobId} {P : Job → Prop} :
    (∃ k ∈ (t.replace j.id (j'.moveTo s)).jobs, k.id = x ∧ P k) ↔
      (x ≠ j.id ∧ ∃ k ∈ t.jobs, k.id = x ∧ P k) ∨ (x = j.id ∧ s ≠ .done ∧ P { j' with status := s }) := by
  constructor
  · rintro ⟨k, hk, rfl, hP⟩
    rcases mem_replace.mp hk with ⟨hk, hne⟩ | ⟨hmove, -⟩
    · exact .inl ⟨hne, k, hk, rfl, hP⟩
    · obtain ⟨hs, rfl⟩ := Job.eq_of_moveTo_eq_some hmove
      exact .inr ⟨hid, hs, hP⟩
  · rintro (⟨hne, k, hk, rfl, hP⟩ | ⟨rfl, hs, hP⟩)
    · exact ⟨k, mem_replace.mpr (.inl ⟨hk, hne⟩), rfl, hP⟩
    · refine ⟨{ j' with status := s }, mem_replace.mpr (.inr ⟨Job.moveTo_of_ne_done hs, ?_⟩), hid, hP⟩
      exact mem_ids.mpr ⟨j, hj, rfl⟩

/-- A job of the table leaves it by a move exactly when it is the moved job and the move is to
done. -/
theorem not_mem_ids_replace_moveTo_iff {t : Table} {j j' : Job} (hj : j ∈ t.jobs)
    (hid : j'.id = j.id) {s : Job.Status} {k : Job} (hk : k ∈ t.jobs) :
    k.id ∉ (t.replace j.id (j'.moveTo s)).ids ↔ k.id = j.id ∧ s = .done := by
  have hleft := exists_mem_replace_moveTo hj hid (s := s) (x := k.id) (P := fun _ => True)
  simp only [and_true] at hleft
  rw [mem_ids, hleft]
  constructor
  · intro h
    by_cases hk' : k.id = j.id
    · exact ⟨hk', by simpa [hk'] using h⟩
    · exact absurd (.inl ⟨hk', k, hk, rfl⟩) h
  · rintro ⟨hk', rfl⟩ (⟨hne, -⟩ | ⟨-, hdone⟩)
    · exact hne hk'
    · exact hdone rfl

theorem reports_self {t : Table} (hs : t.Sorted) : Reports t t none where
  done_iff j hj := ⟨fun h => (by cases h), fun h => absurd (mem_ids.mpr ⟨j, hj, rfl⟩) h⟩
  stopped_iff j hj := by
    refine ⟨fun h => (by cases h), ?_⟩
    rintro ⟨hne, k, hk, hid, hstop⟩
    rw [hs.eq_of_id_eq hk hj hid] at hstop
    exact absurd hstop hne
  none_or := .inl rfl

/-- A call that moves the job `j` (now with the members of `j'`) to a status reports exactly that
move. -/
theorem reports_move {t : Table} (hs : t.Sorted) {j j' : Job} (hj : j ∈ t.jobs) (hid : j'.id = j.id)
    (s : Job.Status) : Reports t (t.replace j.id (j'.moveTo s)) (Notice.ofMove j s) where
  done_iff k hk := by
    rw [Notice.ofMove_eq_some_iff, not_mem_ids_replace_moveTo_iff hj hid hk]
    constructor
    · rintro (⟨rfl, hn⟩ | ⟨-, -, hn⟩)
      · exact ⟨(Notice.ofJob_eq_ofJob.mp hn).1, rfl⟩
      · simp [Notice.ofJob_eq_ofJob] at hn
    · rintro ⟨hk', rfl⟩
      exact .inl ⟨rfl, by rw [hs.eq_of_id_eq hk hj hk']⟩
  stopped_iff k hk := by
    rw [Notice.ofMove_eq_some_iff, exists_mem_replace_moveTo hj hid]
    constructor
    · rintro (⟨-, hn⟩ | ⟨rfl, hne, hn⟩)
      · simp [Notice.ofJob_eq_ofJob] at hn
      · have hk' : k.id = j.id := (Notice.ofJob_eq_ofJob.mp hn).1
        rw [hs.eq_of_id_eq hk hj hk']
        exact ⟨hne, .inr ⟨rfl, by simp, rfl⟩⟩
    · rintro ⟨hne, ⟨-, k', hk'', hid', hstop⟩ | ⟨hk', -, hstop⟩⟩
      · -- another job with `k`'s number would be `k` itself, which is not stopped
        rw [hs.eq_of_id_eq hk'' hk hid'] at hstop
        exact absurd hstop hne
      · have hstop : s = .stopped := hstop
        rw [hs.eq_of_id_eq hk hj hk'] at hne ⊢
        exact .inr ⟨hstop, hne, rfl⟩
  none_or := by
    rcases Notice.ofMove_eq_none_or j s with h | h | h
    · exact .inl h
    · exact .inr ⟨j, hj, .inl h⟩
    · exact .inr ⟨j, hj, .inr h⟩

theorem reports_setStatus {t : Table} (hs : t.Sorted) (g : Pid) (s : Job.Status) :
    Reports t (t.setStatus g s).2 (t.setStatus g s).1 := by
  cases h : t.findByGroup g with
  | none =>
      rw [setStatus_of_findByGroup_none h]
      exact reports_self hs
  | some j =>
      rw [setStatus_of_findByGroup h]
      exact reports_move hs (findByGroup_mem h).1 (Job.settle_id j s) s

theorem reports_mark {t : Table} (hs : t.Sorted) (g pid : Pid) (e : Member.Event) :
    Reports t (t.mark g pid e).2 (t.mark g pid e).1 := by
  cases h : t.findByGroup g with
  | none =>
      rw [mark_of_findByGroup_none h]
      exact reports_self hs
  | some j =>
      cases hm : j.hasMember pid
      · rw [mark_of_not_member h hm]
        exact reports_setStatus hs g e.status
      · rw [mark_of_member h hm]
        exact reports_move hs (findByGroup_mem h).1 (Job.markMember_id j pid e.state) _

/-- A call that answers with a notice is a `setStatus` or a `mark`, and its notice reports what it
did. -/
theorem reports_apply {t : Table} (hs : t.Sorted) {op : Op} {n : Option Notice}
    (h : (op.apply t).1 = .notice n) : Reports t (op.apply t).2 n := by
  cases op with
  | insert pgid status command isPipeline members =>
      rw [apply_insert] at h
      split at h <;> cases h
  | setStatus g s =>
      cases h
      exact reports_setStatus hs g s
  | mark g pid e =>
      cases h
      exact reports_mark hs g pid e
  | pruneDone => cases h

/-! ## One call on a table whose counter is fresh -/

section Step

variable {t : Table} (hs : t.Sorted) (hf : t.Fresh)
include hs hf

/-- With a fresh counter a job leaves only by a done notice or by `pruneDone`: an insert lands
on a new number and keeps every job. -/
theorem leaves_by_done_or_prune {op : Op} {j : Job} (hj : j ∈ t.jobs)
    (hgone : j.id ∉ (op.apply t).2.ids) :
    op = .pruneDone ∨ (op.apply t).1 = .notice (some (.ofJob j .done)) := by
  cases op with
  | insert pgid status command isPipeline members =>
      refine absurd (mem_ids.mpr ⟨j, ?_, rfl⟩) hgone
      rw [apply_insert]
      split
      · exact hj
      · rename_i hfull
        exact (apply_insert_of_fresh (Nat.lt_of_not_le hfull) hf pgid status command isPipeline
          members).2.2 j |>.mpr (.inr hj)
  | setStatus g s =>
      exact .inr (congrArg Reply.notice (((reports_setStatus hs g s).done_iff j hj).mpr hgone))
  | mark g pid e =>
      exact .inr (congrArg Reply.notice (((reports_mark hs g pid e).done_iff j hj).mpr hgone))
  | pruneDone => exact .inl rfl

/-- With a fresh counter a job that stays keeps its status or takes running or stopped. -/
theorem status_apply {op : Op} {k k' : Job} (hk : k ∈ t.jobs) (hk' : k' ∈ (op.apply t).2.jobs)
    (hid : k'.id = k.id) : k'.status = k.status ∨ k'.status ≠ .done := by
  cases op with
  | insert pgid status command isPipeline members =>
      rw [apply_insert] at hk'
      split at hk'
      · exact .inl (by rw [hs.eq_of_id_eq hk' hk hid])
      · rename_i hfull
        rcases ((apply_insert_of_fresh (Nat.lt_of_not_le hfull) hf pgid status command isPipeline
          members).2.2 k').mp hk' with rfl | hk'
        · exact absurd (hid ▸ hf k hk) (Nat.lt_irrefl _)
        · exact .inl (by rw [hs.eq_of_id_eq hk' hk hid])
  | setStatus g s => exact (rewrites_setStatus t g s).status_eq_or_ne_done hs hk hk' hid
  | mark g pid e => exact (rewrites_mark t g pid e).status_eq_or_ne_done hs hk hk' hid
  | pruneDone => exact .inl (by rw [hs.eq_of_id_eq (mem_pruneDone.mp hk').1 hk hid])

end Step

/-! ## Along a run -/

/-- A property of prefixes that holds after `a` calls and fails `d` calls later was last true
somewhere in between. -/
theorem exists_last_before {P : Nat → Prop} {a : Nat} (ha : P a) :
    ∀ d, ¬ P (a + d) → ∃ m, a ≤ m ∧ m < a + d ∧ P m ∧ ¬ P (m + 1)
  | 0, hnot => absurd ha hnot
  | d + 1, hnot => by
    by_cases hm : P (a + d)
    · exact ⟨a + d, by omega, by omega, hm, hnot⟩
    · obtain ⟨m, hle, hlt, hPm, hnext⟩ := exists_last_before ha d hm
      exact ⟨m, hle, by omega, hPm, hnext⟩

section Run

variable {c : Nat} {ops : List Op}

theorem added_take_mono {k m : Nat} (h : k ≤ m) :
    added (withCapacity c) (ops.take k) ≤ added (withCapacity c) (ops.take m) := by
  have := added_take_le (withCapacity c) (ops.take m) k
  rwa [List.take_take, Nat.min_eq_left h] at this

/-- Past its calls, a run stays where it is. -/
theorem run_take_of_length_le {m : Nat} (h : ops.length ≤ m) :
    run (withCapacity c) (ops.take (m + 1)) = run (withCapacity c) (ops.take m) := by
  rw [List.take_of_length_le h, List.take_of_length_le (by omega)]

/-- A notice among the replies of a run belongs to a job of the table before the call: the done
notice of a job the call takes out, or the stopped notice of a job it stops. -/
theorem notice_at {k : Nat} {n : Notice}
    (h : (replies (withCapacity c) ops)[k]? = some (.notice (some n))) :
    ∃ j ∈ (run (withCapacity c) (ops.take k)).jobs,
      (n = .ofJob j .done ∧ j.id ∉ (run (withCapacity c) (ops.take (k + 1))).ids) ∨
      (n = .ofJob j .stopped ∧ j.status ≠ .stopped ∧
        ∃ a ∈ (run (withCapacity c) (ops.take (k + 1))).jobs, a.id = j.id ∧ a.status = .stopped) := by
  have hk : k < ops.length := by simpa using (List.getElem?_eq_some_iff.mp h).1
  rw [getElem?_replies _ _ _ hk, Option.some.injEq] at h
  have hrep := reports_apply ((sorted_withCapacity c).run _) h
  rw [← run_take_succ _ _ _ hk] at hrep
  rcases hrep.none_or with hnone | ⟨j, hj, hdone | hstop⟩
  · cases hnone
  · exact ⟨j, hj, .inl ⟨Option.some.inj hdone, (hrep.done_iff j hj).mp hdone⟩⟩
  · exact ⟨j, hj, .inr ⟨Option.some.inj hstop, (hrep.stopped_iff j hj).mp hstop⟩⟩

variable (hN : added (withCapacity c) ops + 1 < 2 ^ 32)
include hN

theorem fresh_run_take (m : Nat) :
    (run (withCapacity c) (ops.take m)).nextId.toNat = added (withCapacity c) (ops.take m) + 1 ∧
      (run (withCapacity c) (ops.take m)).Fresh :=
  fresh_run c _ (Nat.lt_of_le_of_lt (Nat.add_le_add_right (added_take_le _ ops m) 1) hN)

/-- A number in the table after one more call was there before, or is the one just handed out. -/
theorem mem_ids_run_take_succ {m : Nat} {x : JobId}
    (hx : x ∈ (run (withCapacity c) (ops.take (m + 1))).ids) :
    x ∈ (run (withCapacity c) (ops.take m)).ids ∨ x.toNat = added (withCapacity c) (ops.take m) + 1 := by
  by_cases hlen : m < ops.length
  · rw [run_take_succ _ _ _ hlen] at hx
    rcases mem_ids_apply hx with hx | ⟨-, rfl⟩
    · exact .inl hx
    · exact .inr (fresh_run_take hN m).1
  · rw [run_take_of_length_le (Nat.le_of_not_lt hlen)] at hx
    exact .inl hx

/-- A number that leaves the table never comes back: every number handed out later is larger. -/
theorem not_mem_ids_run_take {k k' : Nat} {x : JobId} (hkk : k < k')
    (hx : x ∈ (run (withCapacity c) (ops.take k)).ids)
    (hgone : x ∉ (run (withCapacity c) (ops.take (k + 1))).ids) :
    x ∉ (run (withCapacity c) (ops.take k')).ids := by
  have hk32 : added (withCapacity c) (ops.take k) < 2 ^ 32 := by
    have := added_take_le (withCapacity c) ops k
    omega
  have hxle : x.toNat ≤ added (withCapacity c) (ops.take k) := (ids_run_le c _ hk32 x hx).2
  obtain ⟨d, rfl⟩ : ∃ d, k' = k + 1 + d := ⟨k' - (k + 1), by omega⟩
  induction d with
  | zero => exact hgone
  | succ d ih =>
      intro hmem
      rw [show k + 1 + (d + 1) = k + 1 + d + 1 by omega] at hmem
      rcases mem_ids_run_take_succ hN hmem with hmem | hnew
      · exact ih (by omega) hmem
      · have hmono : added (withCapacity c) (ops.take k) ≤
            added (withCapacity c) (ops.take (k + 1 + d)) := added_take_mono (by omega)
        omega

theorem done_notices_differ {k k' : Nat} {n n' : Notice} (hkk : k < k')
    (h : (replies (withCapacity c) ops)[k]? = some (.notice (some n)))
    (h' : (replies (withCapacity c) ops)[k']? = some (.notice (some n')))
    (hd : n.kind = .done) (hd' : n'.kind = .done) : n.id ≠ n'.id := by
  obtain ⟨j, hj, ⟨rfl, hgone⟩ | ⟨rfl, -⟩⟩ := notice_at h
  · obtain ⟨j', hj', ⟨rfl, -⟩ | ⟨rfl, -⟩⟩ := notice_at h'
    · intro hid
      exact not_mem_ids_run_take hN hkk (mem_ids.mpr ⟨j, hj, rfl⟩) hgone
        (mem_ids.mpr ⟨j', hj', hid.symm⟩)
    · cases hd'
  · cases hd

/-- Between two stopped notices of one job, some call finds it stopped and leaves it running. -/
theorem running_between_stops {k k' : Nat} {n n' : Notice} (hkk : k < k')
    (h : (replies (withCapacity c) ops)[k]? = some (.notice (some n)))
    (h' : (replies (withCapacity c) ops)[k']? = some (.notice (some n')))
    (hs : n.kind = .stopped) (hs' : n'.kind = .stopped) (hid : n.id = n'.id) :
    ∃ m, k < m ∧ m < k' ∧
      (∃ j ∈ (run (withCapacity c) (ops.take m)).jobs, j.id = n.id ∧ j.status = .stopped) ∧
      ∃ j ∈ (run (withCapacity c) (ops.take (m + 1))).jobs, j.id = n.id ∧ j.status = .running := by
  obtain ⟨j, -, ⟨rfl, -⟩ | ⟨rfl, -, a, ha, haid, hastop⟩⟩ := notice_at h
  · cases hs
  obtain ⟨j', hj', ⟨rfl, -⟩ | ⟨rfl, hne', -⟩⟩ := notice_at h'
  · cases hs'
  have hk' : k' < ops.length := by simpa using (List.getElem?_eq_some_iff.mp h').1
  -- `Stopped m`: after `m` calls the job is in the table and stopped
  let Stopped : Nat → Prop := fun m =>
    ∃ b ∈ (run (withCapacity c) (ops.take m)).jobs, b.id = j.id ∧ b.status = .stopped
  have hfirst : Stopped (k + 1) := ⟨a, ha, haid, hastop⟩
  have hlast : ¬ Stopped k' := by
    rintro ⟨b, hb, hbid, hbstop⟩
    rw [((sorted_withCapacity c).run _).eq_of_id_eq hb hj' (hbid.trans hid)] at hbstop
    exact hne' hbstop
  obtain ⟨m, hm1, hm2, ⟨b, hb, hbid, hbstop⟩, hnext⟩ :=
    exists_last_before hfirst (k' - (k + 1)) (by rwa [show k + 1 + (k' - (k + 1)) = k' by omega])
  have hm2 : m < k' := by omega
  have hstay : j.id ∈ (run (withCapacity c) (ops.take (m + 1))).ids := by
    by_contra hgone
    exact not_mem_ids_run_take hN hm2 (mem_ids.mpr ⟨b, hb, hbid⟩) hgone
      (mem_ids.mpr ⟨j', hj', hid.symm⟩)
  obtain ⟨b', hb', hb'id⟩ := mem_ids.mp hstay
  have hb'apply := hb'
  rw [run_take_succ _ _ _ (by omega)] at hb'apply
  have hfresh := (fresh_run_take hN m).2
  rcases status_apply ((sorted_withCapacity c).run _) hfresh hb hb'apply (hb'id.trans hbid.symm)
    with heq | hne
  · exact absurd ⟨b', hb', hb'id, heq.trans hbstop⟩ hnext
  · refine ⟨m, by omega, hm2, ⟨b, hb, hbid, hbstop⟩, b', hb', hb'id, ?_⟩
    cases hst : b'.status with
    | running => rfl
    | stopped => exact absurd ⟨b', hb', hb'id, hst⟩ hnext
    | done => exact absurd hst hne

end Run

/-- Each `setStatus` and `mark` reports exactly the job it takes out or stops, and below 2^32 - 1
inserts a job leaves once, reported done once. -/
theorem notices_follow_jobs (c : Nat) (ops : List Op) :
    let t := run (withCapacity c) ops
    let T := fun k => run (withCapacity c) (ops.take k)
    let R := replies (withCapacity c) ops
    (∀ g s, Reports t (t.setStatus g s).2 (t.setStatus g s).1) ∧
    (∀ g pid e, Reports t (t.mark g pid e).2 (t.mark g pid e).1) ∧
    (added (withCapacity c) ops < 2 ^ 32 - 1 →
      (∀ k, ∀ j ∈ (T k).jobs, j.id ∉ (T (k + 1)).ids →
        ops[k]? = some .pruneDone ∨ R[k]? = some (.notice (some (.ofJob j .done)))) ∧
      (∀ k k' x, k < k' → x ∈ (T k).ids → x ∉ (T (k + 1)).ids → x ∉ (T k').ids) ∧
      (∀ (k k' : Nat) (n n' : Notice), k < k' → R[k]? = some (.notice (some n)) →
        R[k']? = some (.notice (some n')) → n.kind = .done → n'.kind = .done → n.id ≠ n'.id) ∧
      (∀ (k k' : Nat) (n n' : Notice), k < k' → R[k]? = some (.notice (some n)) →
        R[k']? = some (.notice (some n')) →
        n.kind = .stopped → n'.kind = .stopped → n.id = n'.id →
        ∃ m, k < m ∧ m < k' ∧ (∃ j ∈ (T m).jobs, j.id = n.id ∧ j.status = .stopped) ∧
          ∃ j ∈ (T (m + 1)).jobs, j.id = n.id ∧ j.status = .running)) := by
  intro t T R
  have hs : t.Sorted := (sorted_withCapacity c).run ops
  refine ⟨reports_setStatus hs, reports_mark hs, fun hN => ?_⟩
  have hN : added (withCapacity c) ops + 1 < 2 ^ 32 := by omega
  refine ⟨fun k j hj hgone => ?_, fun k k' x hkk hx hgone => not_mem_ids_run_take hN hkk hx hgone,
    fun k k' n n' hkk h h' => done_notices_differ hN hkk h h',
    fun k k' n n' hkk h h' => running_between_stops hN hkk h h'⟩
  by_cases hk : k < ops.length
  · have hgone : j.id ∉ (ops[k].apply (T k)).2.ids := by rwa [← run_take_succ _ _ _ hk]
    rcases leaves_by_done_or_prune ((sorted_withCapacity c).run _) (fresh_run_take hN k).2 hj hgone
      with hprune | hdone
    · exact .inl (by rw [List.getElem?_eq_getElem hk, hprune])
    · exact .inr (by rw [getElem?_replies _ _ _ hk, hdone])
  · have hgone : j.id ∉ (T k).ids := by
      rwa [show T (k + 1) = T k from run_take_of_length_le (Nat.le_of_not_lt hk)] at hgone
    exact absurd (mem_ids.mpr ⟨j, hj, rfl⟩) hgone

end Table

end JobControl
