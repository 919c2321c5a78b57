import JobControl.Proofs.Table.Basic

/-!
# Runs of the job table

A run is a list of calls on a table, each with its arguments (`Table.Op`): `insert`, `setStatus`,
`mark` and `pruneDone`. `Op.apply` makes one call and gives its reply; `Table.run` is the table
after a run, `Table.replies` the replies in order, and `Table.added` the number of inserts that
succeeded.

What one call keeps (`Sorted.apply`, `size_apply_le`, `nextId_apply`, `mem_ids_apply`), and from
it what every run keeps:

* `Sorted.run`: the jobs stay in strictly increasing order of number;
* `size_run_le`, `capacity_run`: never more jobs than the capacity;
* `nextId_run`: the counter moves by one per successful insert, modulo 2^32, and by nothing else;
* `ids_run_le`: after a run from an empty table with fewer than 2^32 successful inserts, every
  job's number lies between 1 and that count.
-/

namespace JobControl.Table

/-- One call on a table, with its arguments. -/
inductive Op
  | insert (pgid : Pid) (status : Job.Status) (command : String) (isPipeline : Bool)
      (members : List Member)
  | setStatus (pgid : Pid) (status : Job.Status)
  | mark (pgid pid : Pid) (event : Member.Event)
  | pruneDone
  deriving Repr

/-- What a call answers. -/
inductive Reply
  | inserted (result : Except TableFull JobId)
  | notice (notice : Option Notice)
  | pruned (count : Nat)

/-- Makes one call: its reply and the table after it. A refused insert leaves the table as it
was. -/
def Op.apply : Op → Table → Reply × Table
  | .insert pgid status command isPipeline members, t =>
    match t.insert pgid status command isPipeline members with
    | .ok (id, t') => (.inserted (.ok id), t')
    | .error e => (.inserted (.error e), t)
  | .setStatus pgid status, t => (.notice (t.setStatus pgid status).1, (t.setStatus pgid status).2)
  | .mark pgid pid event, t => (.notice (t.mark pgid pid event).1, (t.mark pgid pid event).2)
  | .pruneDone, t => (.pruned t.pruneDone.1, t.pruneDone.2)

/-- Whether a reply is that of an insert that succeeded. -/
def Reply.isAdded : Reply → Bool
  | .inserted (.ok _) => true
  | _ => false

/-- The table after a run. -/
def run (t : Table) (ops : List Op) : Table :=
  ops.foldl (fun t op => (op.apply t).2) t

/-- The replies of a run, in order. -/
def replies : Table → List Op → List Reply
  | _, [] => []
  | t, op :: ops => (op.apply t).1 :: replies (op.apply t).2 ops

/-- How many inserts of a run succeed. -/
def added (t : Table) (ops : List Op) : Nat :=
  (replies t ops).countP Reply.isAdded

/-! ## Runs, call by call -/

@[simp] theorem run_nil (t : Table) : run t [] = t := rfl

@[simp] theorem run_cons (t : Table) (op : Op) (ops : List Op) :
    run t (op :: ops) = run (op.apply t).2 ops := rfl

theorem run_append (t : Table) (ops ops' : List Op) : run t (ops ++ ops') = run (run t ops) ops' :=
  List.foldl_append

theorem run_concat (t : Table) (ops : List Op) (op : Op) :
    run t (ops ++ [op]) = (op.apply (run t ops)).2 := by
  rw [run_append]
  rfl

theorem replies_append (t : Table) (ops ops' : List Op) :
    replies t (ops ++ ops') = replies t ops ++ replies (run t ops) ops' := by
  induction ops generalizing t with
  | nil => rfl
  | cons op ops ih => simp [replies, ih]

@[simp] theorem length_replies (t : Table) (ops : List Op) : (replies t ops).length = ops.length := by
  induction ops generalizing t with
  | nil => rfl
  | cons op ops ih => simp [replies, ih]

theorem added_concat (t : Table) (ops : List Op) (op : Op) :
    added t (ops ++ [op]) = added t ops + if (op.apply (run t ops)).1.isAdded then 1 else 0 := by
  simp [added, replies_append, replies, List.countP_cons]

theorem added_take_le (t : Table) (ops : List Op) (k : Nat) : added t (ops.take k) ≤ added t ops := by
  conv_rhs => rw [← List.take_append_drop k ops]
  simp only [added, replies_append, List.countP_append]
  omega

/-- The `k`-th reply is the answer to the `k`-th call, made on the table the calls before it left. -/
theorem getElem?_replies (t : Table) (ops : List Op) (k : Nat) (hk : k < ops.length) :
    (replies t ops)[k]? = some (ops[k].apply (run t (ops.take k))).1 := by
  induction ops generalizing t k with
  | nil => simp at hk
  | cons op ops ih =>
      cases k with
      | zero => rfl
      | succ k => exact ih _ k (by simpa using hk)

theorem run_take_succ (t : Table) (ops : List Op) (k : Nat) (hk : k < ops.length) :
    run t (ops.take (k + 1)) = (ops[k].apply (run t (ops.take k))).2 := by
  rw [List.take_succ_eq_append_getElem hk, run_concat]

/-! ## What one call keeps -/

/-- `t'` is `t`, or `t` with the jobs of one number replaced by one job of that number moved to
a status (or by nothing, for done): what `setStatus` and `mark` do. -/
def Rewrites (t t' : Table) : Prop :=
  t' = t ∨ ∃ j s, t' = t.replace (Job.id j) (j.moveTo s)

theorem rewrites_setStatus (t : Table) (g : Pid) (s : Job.Status) :
    Rewrites t (t.setStatus g s).2 := by
  cases h : t.findByGroup g with
  | none => exact .inl (by rw [setStatus_of_findByGroup_none h])
  | some j =>
      refine .inr ⟨j.settle s, s, ?_⟩
      rw [setStatus_of_findByGroup h, Job.settle_id]

theorem rewrites_mark (t : Table) (g pid : Pid) (e : Member.Event) :
    Rewrites t (t.mark g pid e).2 := by
  cases h : t.findByGroup g with
  | none => exact .inl (by rw [mark_of_findByGroup_none h])
  | some j =>
      cases hm : j.hasMember pid
      · rw [mark_of_not_member h hm]
        exact rewrites_setStatus t g e.status
      · refine .inr ⟨j.markMember pid e.state, (j.markMember pid e.state).derivedStatus, ?_⟩
        rw [mark_of_member h hm, Job.markMember_id]

namespace Rewrites

variable {t t' : Table}

theorem capacity_eq (h : Rewrites t t') : t'.capacity = t.capacity := by
  rcases h with rfl | ⟨j, s, rfl⟩ <;> rfl

theorem nextId_eq (h : Rewrites t t') : t'.nextId = t.nextId := by
  rcases h with rfl | ⟨j, s, rfl⟩ <;> rfl

theorem size_le (h : Rewrites t t') : t'.size ≤ t.size := by
  rcases h with rfl | ⟨j, s, rfl⟩
  · exact Nat.le_refl _
  · exact List.length_filterMap_le _ _

theorem sorted (h : Rewrites t t') (hs : t.Sorted) : t'.Sorted := by
  rcases h with rfl | ⟨j, s, rfl⟩
  · exact hs
  · exact hs.replace fun k hk => (Job.eq_of_moveTo_eq_some hk).2 ▸ rfl

theorem mem_ids (h : Rewrites t t') {x : JobId} (hx : x ∈ t'.ids) : x ∈ t.ids := by
  rcases h with rfl | ⟨j, s, rfl⟩
  · exact hx
  obtain ⟨k, hk, rfl⟩ := Table.mem_ids.mp hx
  rcases mem_replace.mp hk with ⟨hk, -⟩ | ⟨hok, hid⟩
  · exact Table.mem_ids.mpr ⟨k, hk, rfl⟩
  · rwa [(Job.eq_of_moveTo_eq_some hok).2]

/-- A job that stays keeps its status or takes running or stopped: a rewrite never makes a job
done without taking it out. -/
theorem status_eq_or_ne_done (h : Rewrites t t') (hs : t.Sorted) {k k' : Job} (hk : k ∈ t.jobs)
    (hk' : k' ∈ t'.jobs) (hid : k'.id = k.id) : k'.status = k.status ∨ k'.status ≠ .done := by
  rcases h with rfl | ⟨j, s, rfl⟩
  · exact .inl (by rw [hs.eq_of_id_eq hk' hk hid])
  rcases mem_replace.mp hk' with ⟨hk', -⟩ | ⟨hok, -⟩
  · exact .inl (by rw [hs.eq_of_id_eq hk' hk hid])
  · obtain ⟨hne, rfl⟩ := Job.eq_of_moveTo_eq_some hok
    exact .inr hne

end Rewrites

/-- An insert adds the enrolled job under the counter, or is refused by a full table. -/
theorem apply_insert (t : Table) (pgid : Pid) (status : Job.Status) (command : String)
    (isPipeline : Bool) (members : List Member) :
    (Op.insert pgid status command isPipeline members).apply t =
      if t.capacity ≤ t.size then (.inserted (.error ⟨t.capacity⟩), t)
      else (.inserted (.ok ⟨t.nextId⟩), { t with
        jobs := place (.enrol ⟨t.nextId⟩ pgid status command isPipeline members) t.jobs
        nextId := t.nextId + 1 }) := by
  by_cases hfull : t.capacity ≤ t.size
  · have herr : t.insert pgid status command isPipeline members = .error ⟨t.capacity⟩ :=
      by simp [insert, hfull]
    simp [Op.apply, herr, hfull]
  · simp [Op.apply, insert_of_lt (Nat.lt_of_not_le hfull), hfull]

theorem apply_capacity (op : Op) (t : Table) : (op.apply t).2.capacity = t.capacity := by
  cases op with
  | insert pgid status command isPipeline members =>
      rw [apply_insert]
      split <;> rfl
  | setStatus g s => exact (rewrites_setStatus t g s).capacity_eq
  | mark g pid e => exact (rewrites_mark t g pid e).capacity_eq
  | pruneDone => rfl

theorem Sorted.apply {t : Table} (hs : t.Sorted) (op : Op) : (op.apply t).2.Sorted := by
  cases op with
  | insert pgid status command isPipeline members =>
      rw [apply_insert]
      split
      · exact hs
      · exact pairwise_place hs
  | setStatus g s => exact (rewrites_setStatus t g s).sorted hs
  | mark g pid e => exact (rewrites_mark t g pid e).sorted hs
  | pruneDone => exact hs.pruneDone

theorem size_apply_le {t : Table} (h : t.size ≤ t.capacity) (op : Op) :
    (op.apply t).2.size ≤ t.capacity := by
  cases op with
  | insert pgid status command isPipeline members =>
      rw [apply_insert]
      split
      · exact h
      · rename_i hfull
        have := length_place_le (.enrol ⟨t.nextId⟩ pgid status command isPipeline members) t.jobs
        simp only [size] at hfull ⊢
        omega
  | setStatus g s => exact Nat.le_trans (rewrites_setStatus t g s).size_le h
  | mark g pid e => exact Nat.le_trans (rewrites_mark t g pid e).size_le h
  | pruneDone => exact Nat.le_trans (List.length_filter_le _ _) h

/-- Only a successful insert moves the counter, by one. -/
theorem nextId_apply (op : Op) (t : Table) :
    (op.apply t).2.nextId = t.nextId + if (op.apply t).1.isAdded then 1 else 0 := by
  cases op with
  | insert pgid status command isPipeline members =>
      rw [apply_insert]
      split <;> simp [Reply.isAdded]
  | setStatus g s => simp [Op.apply, Reply.isAdded, (rewrites_setStatus t g s).nextId_eq]
  | mark g pid e => simp [Op.apply, Reply.isAdded, (rewrites_mark t g pid e).nextId_eq]
  | pruneDone => simp [Op.apply, Reply.isAdded]

/-- A call brings in no number but the counter's, and only through a successful insert. -/
theorem mem_ids_apply {op : Op} {t : Table} {x : JobId} (hx : x ∈ (op.apply t).2.ids) :
    x ∈ t.ids ∨ ((op.apply t).1.isAdded ∧ x = ⟨t.nextId⟩) := by
  cases op with
  | insert pgid status command isPipeline members =>
      rw [apply_insert] at hx ⊢
      split at hx
      · exact .inl hx
      · rename_i hfull
        simp only [hfull, if_false, Reply.isAdded, true_and]
        obtain ⟨k, hk, rfl⟩ := mem_ids.mp hx
        rcases mem_place_of_mem hk with rfl | hk
        · exact .inr rfl
        · exact .inl (mem_ids.mpr ⟨k, hk, rfl⟩)
  | setStatus g s => exact .inl ((rewrites_setStatus t g s).mem_ids hx)
  | mark g pid e => exact .inl ((rewrites_mark t g pid e).mem_ids hx)
  | pruneDone =>
      obtain ⟨k, hk, rfl⟩ := mem_ids.mp hx
      exact .inl (mem_ids.mpr ⟨k, (mem_pruneDone.mp hk).1, rfl⟩)

/-! ## What every run keeps -/

theorem capacity_run (t : Table) (ops : List Op) : (run t ops).capacity = t.capacity := by
  induction ops generalizing t with
  | nil => rfl
  | cons op ops ih => rw [run_cons, ih, apply_capacity]

theorem Sorted.run {t : Table} (hs : t.Sorted) (ops : List Op) : (t.run ops).Sorted := by
  induction ops generalizing t with
  | nil => exact hs
  | cons op ops ih => exact ih (hs.apply op)

theorem size_run_le {t : Table} (h : t.size ≤ t.capacity) (ops : List Op) :
    (run t ops).size ≤ t.capacity := by
  induction ops generalizing t with
  | nil => exact h
  | cons op ops ih =>
      have hstep : (op.apply t).2.size ≤ (op.apply t).2.capacity := by
        rw [apply_capacity]
        exact size_apply_le h op
      have := ih hstep
      rwa [apply_capacity] at this

/-- The counter after a run: one more per successful insert, modulo 2^32. -/
theorem nextId_run (t : Table) (ops : List Op) :
    (run t ops).nextId.toNat = (t.nextId.toNat + added t ops) % 2 ^ 32 := by
  induction ops using List.reverseRecOn with
  | nil => simp [added, replies, Nat.mod_eq_of_lt t.nextId.toNat_lt]
  | append_singleton ops op ih =>
      rw [run_concat, nextId_apply, added_concat, UInt32.toNat_add, ih, Nat.mod_add_mod,
        ← Nat.add_assoc]
      split <;> rfl

theorem sorted_withCapacity (c : Nat) : (withCapacity c).Sorted :=
  List.Pairwise.nil

/-- While fewer than 2^32 inserts have succeeded, the numbers in the table are those the inserts
handed out: from 1 up to their count. -/
theorem ids_run_le (c : Nat) (ops : List Op) (h : added (withCapacity c) ops < 2 ^ 32) :
    ∀ x ∈ (run (withCapacity c) ops).ids, 1 ≤ x.toNat ∧ x.toNat ≤ added (withCapacity c) ops := by
  induction ops using List.reverseRecOn with
  | nil => simp [ids, withCapacity]
  | append_singleton ops op ih =>
      intro x hx
      rw [run_concat] at hx
      rw [added_concat] at h ⊢
      rcases mem_ids_apply hx with hx | ⟨hadded, rfl⟩
      · have := ih (by omega) x hx
        omega
      · -- the new number is the counter, one more than the inserts before
        have hnext : (run (withCapacity c) ops).nextId.toNat =
            (1 + added (withCapacity c) ops) % 2 ^ 32 :=
          nextId_run (withCapacity c) ops
        rw [if_pos hadded] at h ⊢
        simp only [JobId.toNat, hnext]
        omega

/-- Every number in the table is below the counter, so an insert lands on a number no job has. -/
def Fresh (t : Table) : Prop :=
  ∀ j ∈ t.jobs, j.id.toNat < t.nextId.toNat

/-- Until the counter comes round, it stands one above the number of successful inserts, and
above every number in the table. -/
theorem fresh_run (c : Nat) (ops : List Op) (h : added (withCapacity c) ops + 1 < 2 ^ 32) :
    (run (withCapacity c) ops).nextId.toNat = added (withCapacity c) ops + 1 ∧
      (run (withCapacity c) ops).Fresh := by
  have hnext : (run (withCapacity c) ops).nextId.toNat = added (withCapacity c) ops + 1 := by
    rw [nextId_run]
    show (1 + added (withCapacity c) ops) % 2 ^ 32 = _
    rw [Nat.add_comm, Nat.mod_eq_of_lt h]
  refine ⟨hnext, fun j hj => ?_⟩
  have := ids_run_le c ops (by omega) j.id (mem_ids.mpr ⟨j, hj, rfl⟩)
  omega

end JobControl.Table
