import JobControl.Proofs.Table.Run

/-!
# Job numbers

The table numbers its jobs with a 32-bit counter that starts at 1 and moves only when an insert
succeeds. So the `k`-th successful insert of a run from an empty table gets `k` modulo 2^32:
exactly `k` while `k < 2^32`, and `0` for the 2^32-th, after which numbers come round again and an
insert may land on a job still in the table.

`insert_numbers_jobs_in_order` gathers what holds of every insert of every run: the table never
holds more jobs than its capacity and keeps its jobs in strictly increasing order of number;
an insert is refused exactly when the table is full and then changes nothing; an accepted insert
hands out the count of successful inserts so far plus one, modulo 2^32. While that count stays
below 2^32 the number is above every number in the table, so the insert adds exactly its job
and changes no other.
-/

namespace JobControl.Table

/-- The job an accepted insert adds is the enrolled one, under a number no job has, next to the
jobs already there. -/
theorem apply_insert_of_fresh {t : Table} (hlt : t.size < t.capacity) (hfresh : t.Fresh) (pgid : Pid) (status : Job.Status)
    (command : String) (isPipeline : Bool) (members : List Member) :
    let j := Job.enrol ⟨t.nextId⟩ pgid status command isPipeline members
    (Op.insert pgid status command isPipeline members).apply t = (.inserted (.ok ⟨t.nextId⟩),
      { t with jobs := place j t.jobs, nextId := t.nextId + 1 }) ∧
    (place j t.jobs).length = t.size + 1 ∧ ∀ k, k ∈ place j t.jobs ↔ k = j ∨ k ∈ t.jobs := by
  intro j
  have hne : ∀ k ∈ t.jobs, k.id ≠ j.id := by
    intro k hk hid
    have := hfresh k hk
    rw [hid] at this
    exact Nat.lt_irrefl _ this
  refine ⟨?_, length_place_of_not_mem hne, fun k => mem_place_of_fresh hne⟩
  rw [apply_insert, if_neg (Nat.not_le.mpr hlt)]

/-- Each insert of a run is refused exactly on a full table, and otherwise numbers its job one past
the inserts accepted before, modulo 2^32. -/
theorem insert_numbers_jobs_in_order (c : Nat) (pre : List Op) (pgid : Pid) (status : Job.Status)
    (command : String) (isPipeline : Bool) (members : List Member) :
    let t := run (withCapacity c) pre
    let n := added (withCapacity c) pre
    t.size ≤ c ∧ t.Sorted ∧ t.nextId.toNat = (n + 1) % 2 ^ 32 ∧
    (c ≤ t.size →
      (Op.insert pgid status command isPipeline members).apply t = (.inserted (.error ⟨c⟩), t)) ∧
    (t.size < c → ∃ id t',
      (Op.insert pgid status command isPipeline members).apply t = (.inserted (.ok id), t') ∧
      id.toNat = (n + 1) % 2 ^ 32 ∧
      (n + 1 < 2 ^ 32 → id.toNat = n + 1 ∧ (∀ k ∈ t.jobs, k.id.toNat < id.toNat) ∧
        t'.size = t.size + 1 ∧
        ∀ k, k ∈ t'.jobs ↔ k = Job.enrol id pgid status command isPipeline members ∨ k ∈ t.jobs)) := by
  intro t n
  have hcap : t.capacity = c := capacity_run (withCapacity c) pre
  have hnext : t.nextId.toNat = (n + 1) % 2 ^ 32 := by
    rw [nextId_run, Nat.add_comm]
    rfl
  have hsize : t.size ≤ c :=
    size_run_le (show (withCapacity c).size ≤ (withCapacity c).capacity from Nat.zero_le c) pre
  refine ⟨hsize, (sorted_withCapacity c).run pre, hnext,
    fun hfull => ?_, fun hlt => ?_⟩
  · rw [apply_insert, if_pos (hcap ▸ hfull), hcap]
  · have hroom : t.size < t.capacity := by omega
    refine ⟨⟨t.nextId⟩, _, by rw [apply_insert, if_neg (Nat.not_le.mpr hroom)], hnext,
      fun hn => ?_⟩
    -- below 2^32 inserts the counter is above every number handed out
    obtain ⟨hid, hfresh⟩ := fresh_run c pre hn
    obtain ⟨-, hlen, hmem⟩ :=
      apply_insert_of_fresh hroom hfresh pgid status command isPipeline members
    exact ⟨hid, hfresh, hlen, hmem⟩

end JobControl.Table
