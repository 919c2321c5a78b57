import JobControl.Proofs.Shell.Collecting
import JobControl.Proofs.Table.Waiting

/-!
# Continuing a job: `fg` and `bg`

Both builtins start by collecting what the children reported. The statements here are about runs
in which that collection reports no change (`Trace.Uneventful`), so that each builtin works on the
table it was given.

* `foreground_spec`, `background_spec`: what each builtin does, branch by branch, read off its
  run: at most one `SIGCONT`, sent to the target's group;
* `waitMembers_spec`: `fg` waits for each live member once, in order, records each wait as a
  `mark` with the event it reported (`waitEvent`: a stop, or an exit, also when the wait failed),
  and returns the status of the last wait that succeeded (`statusAfterWaits`);
* `foreground_waits_for_live_members`: on a table that the launcher's calls reach, with distinct
  groups and pids, `fg` whose `SIGCONT` succeeds takes its job out with one done notice when every
  wait ended in an exit, and otherwise leaves it stopped with one stopped notice;
* `continue_refusals_keep_table`: every refusal returns 1 and leaves the table as it was. What
  `fg` does when the group is gone, and what `bg` does when the signal succeeds, is done to the
  job the table finds for the group: its lowest-numbered job. With distinct groups that is the
  target; when two jobs share a group it need not be (`fg_on_shared_group_removes_older_job`).
-/

namespace JobControl

open Sys

namespace Builtin

/-! ## The waits of `fg` -/

/-- How `fg` records a member from its wait: a stop, or an exit, also when the wait failed. -/
def waitEvent : Except Errno WaitResult → Member.Event
  | .ok w => if w.isStopped then .stopped else .exited
  | .error _ => .exited

/-- The status of the last wait that succeeded, `s` when none did. -/
def statusAfterWaits (s : Int32) (ws : List (Pid × Except Errno WaitResult)) : Int32 :=
  ((ws.filterMap fun w => w.2.toOption).getLast?.map WaitResult.status).getD s

theorem waitEvent_ne_continued (r : Except Errno WaitResult) : waitEvent r ≠ .continued := by
  cases r with
  | error => simp [waitEvent]
  | ok w => by_cases h : w.isStopped <;> simp [waitEvent, h]

/-- The waits seen one at a time: each that succeeds sets the status. -/
theorem statusAfterWaits_cons (s : Int32) (w : Pid × Except Errno WaitResult)
    (ws : List (Pid × Except Errno WaitResult)) :
    statusAfterWaits s (w :: ws) = statusAfterWaits (statusAfterWaits s [w]) ws := by
  obtain ⟨p, _ | r⟩ := w
  · rfl
  · show ((r :: ws.filterMap fun w => w.2.toOption).getLast?.map WaitResult.status).getD s =
      ((ws.filterMap fun w => w.2.toOption).getLast?.map WaitResult.status).getD r.status
    rw [List.getLast?_cons]
    cases (ws.filterMap fun w => w.2.toOption).getLast? <;> rfl

/-- One wait of `fg`, then the waits for the other members. -/
theorem waitMembers_cons (pgid q : Pid) (qs : List Pid) (s : Int32) (t : Table)
    (ns : List Notice) :
    waitMembers pgid (q :: qs) s t ns = ask (.waitFor q) >>= fun rep =>
      waitMembers pgid qs (statusAfterWaits s [(q, rep)]) (t.mark pgid q (waitEvent rep)).2
        (ns ++ (t.mark pgid q (waitEvent rep)).1.toList) := by
  rw [waitMembers]
  congr 1
  funext rep
  cases rep <;> rfl

/-- `fg`'s waits: one per pid, in order, each recorded by `mark` with the event it reported; no
signal is sent, and the status is that of the last wait that succeeded. -/
theorem waitMembers_spec {pgid : Pid} {qs : List Pid} {s : Int32} {t : Table} {ns : List Notice}
    {tr : Trace} {r : Int32 × Table × List Notice} (h : Yields (waitMembers pgid qs s t ns) tr r) :
    tr.waits.map (·.1) = qs ∧ tr.signals = [] ∧
      r = (statusAfterWaits s tr.waits,
        Table.run t (tr.waits.map fun w => .mark pgid w.1 (waitEvent w.2)),
        ns ++ (Table.replies t (tr.waits.map fun w => .mark pgid w.1 (waitEvent w.2))).flatMap
          Table.Reply.notices) := by
  -- the waits are made on the pids in turn; the table and the notices follow the marks
  induction qs generalizing s t ns tr with
  | nil =>
    obtain ⟨rfl, rfl⟩ := yields_pure_iff.mp h
    refine ⟨rfl, rfl, ?_⟩
    simp only [Trace.waits_nil, List.map_nil, Table.replies, List.flatMap_nil, List.append_nil]
    rfl
  | cons q qs ih =>
    rw [waitMembers_cons, yields_ask_bind_iff] at h
    obtain ⟨rep, tr', rfl, h'⟩ := h
    obtain ⟨hw, hs, rfl⟩ := ih h'
    have hw' : Trace.waits (⟨.waitFor q, rep⟩ :: tr') =
        ((q, rep) : Pid × Except Errno WaitResult) :: Trace.waits tr' := rfl
    refine ⟨by rw [hw']; exact congrArg (q :: ·) hw, by simp [Exchange.signal?, hs], ?_⟩
    rw [hw', statusAfterWaits_cons s (q, rep) (Trace.waits tr')]
    simp only [List.map_cons, Table.replies, List.flatMap_cons, List.append_assoc]
    rfl

/-! ## The builtins, branch by branch -/

/-- After a collection that reports no change, a builtin goes on with the shell it was given. -/
theorem reap_bind_of_uneventful {α : Type} {sh : Shell} {k : Shell → Sys α} {tr : Trace} {a : α}
    (h : Yields (sh.reap >>= k) tr a) (hq : tr.Uneventful) :
    ∃ tr', Yields (k sh) tr' a ∧ tr.signals = tr'.signals ∧ tr.waits = tr'.waits := by
  obtain ⟨tr₁, sh₁, tr₂, rfl, h₁, h₂⟩ := yields_bind_iff.mp h
  obtain ⟨rfl, hs, hw⟩ := Shell.reap_of_uneventful h₁ hq.left
  exact ⟨tr₂, h₂, by simp [hs], by simp [hw]⟩

/-- What `fg` does after a collection that reports no change, branch by branch. -/
theorem foreground_spec {args : List String} {sh : Shell} {tr : Trace}
    {r : BuiltinOutcome × Shell} (h : Yields (foreground args sh) tr r) (hq : tr.Uneventful) :
    (∀ name, target sh.jobs args.head? sh.jobs.current = .error name →
      tr.signals = [] ∧ r = (.proceed 1, sh.complain "fg" (name ++ ": no such job"))) ∧
    (∀ j, target sh.jobs args.head? sh.jobs.current = .ok j →
      ∃ (rep : Except Errno Unit) (tr' : Trace), tr.signals = [(j.pgid, sigcont, rep)] ∧
        tr.waits = tr'.waits ∧
        (rep = .error .srch → tr' = [] ∧ r = (.proceed 0,
          { sh.print j.command with jobs := (sh.jobs.setStatus j.pgid .done).2 }.notifyAll
            (sh.jobs.setStatus j.pgid .done).1.toList)) ∧
        (∀ e, rep = .error e → e ≠ .srch → tr' = [] ∧
          r = (.proceed 1, (sh.print j.command).complain "fg"
            ("failed to continue job: " ++ e.render))) ∧
        (rep = .ok () → ∃ w, Yields (waitMembers j.pgid j.livePids 0
            (sh.jobs.setStatus j.pgid .running).2 []) tr' w ∧
          r = (.proceed w.1, { sh.print j.command with jobs := w.2.1 }.notifyAll w.2.2))) := by
  unfold foreground at h
  obtain ⟨tr', h', hs, hw⟩ := reap_bind_of_uneventful h hq
  refine ⟨fun name hname => ?_, fun j hj => ?_⟩
  · simp only [hname] at h'
    obtain ⟨rfl, rfl⟩ := yields_pure_iff.mp h'
    exact ⟨hs, rfl⟩
  simp only [hj] at h'
  obtain ⟨rep, tr'', rfl, h''⟩ := yields_ask_bind_iff.mp h'
  have hsig : Trace.signals (⟨.signalGroup j.pgid sigcont, rep⟩ :: tr'') =
      ((j.pgid, sigcont, rep) : Pid × Nat × Except Errno Unit) :: Trace.signals tr'' := rfl
  refine ⟨rep, tr'', ?_, hw, ?_⟩
  · rw [hs, hsig]
    split at h''
    · rw [(yields_pure_iff.mp h'').1]
      rfl
    · rw [(yields_pure_iff.mp h'').1]
      rfl
    · obtain ⟨tr₁, w, tr₂, rfl, h₁, h₂⟩ := yields_bind_iff.mp h''
      rw [(yields_pure_iff.mp h₂).1, List.append_nil, (waitMembers_spec h₁).2.1]
  split at h''
  · obtain ⟨rfl, rfl⟩ := yields_pure_iff.mp h''
    exact ⟨fun _ => ⟨rfl, rfl⟩, fun e he hne => absurd (Except.error.inj he).symm hne,
      fun h => nomatch h⟩
  · rename_i e hne
    obtain ⟨rfl, rfl⟩ := yields_pure_iff.mp h''
    refine ⟨fun h => absurd (Except.error.inj h) hne, fun e' he' _ => ?_, fun h => nomatch h⟩
    obtain rfl := Except.error.inj he'
    exact ⟨rfl, rfl⟩
  · obtain ⟨tr₁, w, tr₂, rfl, h₁, h₂⟩ := yields_bind_iff.mp h''
    obtain ⟨rfl, rfl⟩ := yields_pure_iff.mp h₂
    refine ⟨fun h => (nomatch h), fun e h => (nomatch h), fun _ => ⟨w, ?_, rfl⟩⟩
    rw [List.append_nil]
    exact h₁

/-- What `bg` does after a collection that reports no change, branch by branch. -/
theorem background_spec {args : List String} {sh : Shell} {tr : Trace}
    {r : BuiltinOutcome × Shell} (h : Yields (background args sh) tr r) (hq : tr.Uneventful) :
    (∀ name, target sh.jobs args.head? sh.jobs.currentStopped = .error name →
      tr.signals = [] ∧ r = (.proceed 1, sh.complain "bg" (name ++ ": no such job"))) ∧
    (∀ j, target sh.jobs args.head? sh.jobs.currentStopped = .ok j → j.status ≠ .stopped →
      tr.signals = [] ∧
        r = (.proceed 1, sh.complain "bg" ("job " ++ j.id.toString ++ " already in background"))) ∧
    (∀ j, target sh.jobs args.head? sh.jobs.currentStopped = .ok j → j.status = .stopped →
      ∃ rep : Except Errno Unit, tr.signals = [(j.pgid, sigcont, rep)] ∧
        (∀ e, rep = .error e →
          r = (.proceed 1, sh.complain "bg" ("failed to continue job: " ++ e.render))) ∧
        (rep = .ok () → r = (.proceed 0,
          { sh with jobs := (sh.jobs.setStatus j.pgid .running).2 }.notify (.ofJob j .continued)))) := by
  unfold background at h
  obtain ⟨tr', h', hs, -⟩ := reap_bind_of_uneventful h hq
  refine ⟨fun name hname => ?_, fun j hj hns => ?_, fun j hj hst => ?_⟩
  · simp only [hname] at h'
    obtain ⟨rfl, rfl⟩ := yields_pure_iff.mp h'
    exact ⟨hs, rfl⟩
  · simp only [hj] at h'
    rw [if_pos hns] at h'
    obtain ⟨rfl, rfl⟩ := yields_pure_iff.mp h'
    exact ⟨hs, rfl⟩
  simp only [hj] at h'
  rw [if_neg (not_not.mpr hst)] at h'
  obtain ⟨rep, tr'', rfl, h''⟩ := yields_ask_bind_iff.mp h'
  split at h''
  · rename_i e
    obtain ⟨rfl, rfl⟩ := yields_pure_iff.mp h''
    refine ⟨.error e, hs, fun e' he' => ?_, fun h => (nomatch h)⟩
    obtain rfl := Except.error.inj he'
    rfl
  · obtain ⟨rfl, rfl⟩ := yields_pure_iff.mp h''
    exact ⟨.ok (), hs, fun e h => (nomatch h), fun _ => rfl⟩

/-! ## Targets -/

/-- A job argument that is no job number, or names no job, is refused under its own text. -/
theorem target_of_unknown {t : Table} {a : String} {fallback : Option Job}
    (h : ∀ id, JobId.ofString? a = .ok id → t.findById id = none) :
    target t (some a) fallback = .error a := by
  cases hp : JobId.ofString? a with
  | error => simp [target, hp]
  | ok id => simp [target, hp, h id hp]

/-- The target is a job of the table whenever the default is. -/
theorem target_mem {t : Table} {arg : Option String} {fallback : Option Job} {j : Job}
    (h : target t arg fallback = .ok j) (hfb : ∀ k, fallback = some k → k ∈ t.jobs) :
    j ∈ t.jobs := by
  unfold target at h
  cases arg with
  | none =>
    cases hf : fallback with
    | none => simp [hf] at h
    | some k =>
      simp only [hf, Except.ok.injEq] at h
      exact h ▸ hfb k hf
  | some a =>
    cases hp : JobId.ofString? a with
    | error => simp [hp] at h
    | ok id =>
      cases hk : t.findById id with
      | none => simp [hp, hk] at h
      | some k =>
        simp only [hp, hk, Except.ok.injEq] at h
        exact h ▸ List.mem_of_find?_eq_some hk

end Builtin

namespace Table

/-- In a table kept in number order, the default of `bg` is the highest-numbered stopped job. -/
theorem Sorted.currentStopped_eq_some_iff {t : Table} (hs : t.Sorted) {j : Job} :
    t.currentStopped = some j ↔ j ∈ t.jobs ∧ j.status = .stopped ∧
      ∀ k ∈ t.jobs, k.status = .stopped → k.id.toNat ≤ j.id.toNat := by
  -- read from the end, the jobs come in decreasing number
  have hrev : t.jobs.reverse.Pairwise fun a b => b.id.toNat < a.id.toNat :=
    List.pairwise_reverse.mpr hs
  constructor
  · intro h
    obtain ⟨hPj, as, bs, heq, has⟩ := List.find?_eq_some_iff_append.mp h
    have hp : (as ++ j :: bs).Pairwise fun a b => b.id.toNat < a.id.toNat := heq ▸ hrev
    refine ⟨List.mem_reverse.mp (heq ▸ List.mem_append_right _ List.mem_cons_self),
      by simpa using hPj, fun k hk hks => ?_⟩
    rcases List.mem_append.mp (heq ▸ List.mem_reverse.mpr hk) with hka | hkb
    · exact absurd hks (by simpa using has k hka)
    · rcases List.mem_cons.mp hkb with rfl | hkb
      · exact le_refl _
      · exact le_of_lt ((List.pairwise_cons.mp (List.pairwise_append.mp hp).2.1).1 k hkb)
  · rintro ⟨hj, hst, hmax⟩
    obtain ⟨as, bs, heq⟩ := List.append_of_mem (List.mem_reverse.mpr hj)
    have hp : (as ++ j :: bs).Pairwise fun a b => b.id.toNat < a.id.toNat := heq ▸ hrev
    refine List.find?_eq_some_iff_append.mpr ⟨by simpa using hst, as, bs, heq, fun a ha => ?_⟩
    have hlt : j.id.toNat < a.id.toNat :=
      (List.pairwise_append.mp hp).2.2 a ha j List.mem_cons_self
    have ha' : a ∈ t.jobs := List.mem_reverse.mp (heq ▸ List.mem_append_left _ ha)
    by_cases has : a.status = .stopped
    · exact absurd (hmax a ha' has) (by omega)
    · simpa using has

end Table

namespace Builtin

/-! ## `fg` on a continued job -/

/-- `fg` whose `SIGCONT` succeeds waits for the live members in order and leaves its job done or
stopped with one notice; no other job changes. -/
theorem foreground_waits_for_live_members (c : Nat) (ops : List Table.Op)
    (hops : ∀ op ∈ ops, op.Launchable) (hd : (Table.run (.withCapacity c) ops).Distinct)
    {sh : Shell} (hsh : sh.jobs = Table.run (.withCapacity c) ops) {args : List String} {j : Job}
    (hj : target sh.jobs args.head? sh.jobs.current = .ok j) {tr : Trace}
    {r : BuiltinOutcome × Shell} (h : Yields (foreground args sh) tr r) (hq : tr.Uneventful)
    (hcont : (j.pgid, sigcont, .ok ()) ∈ tr.signals) :
    tr.waits.map (·.1) = j.livePids ∧
      r.1 = .proceed (statusAfterWaits 0 tr.waits) ∧
      ((∀ w ∈ tr.waits, waitEvent w.2 = .exited) →
        r.2 = { sh.print j.command with jobs := sh.jobs.remove j.id }.notify (.ofJob j .done)) ∧
      ((∃ w ∈ tr.waits, waitEvent w.2 = .stopped) →
        ∃ f : Pid → Member.State, (∀ w ∈ tr.waits, f w.1 = (waitEvent w.2).state) ∧
          r.2 = { sh.print j.command with
            jobs := sh.jobs.replace j.id (some { j with
              status := .stopped
              members := j.members.map fun m : Member =>
                if m.state = Member.State.exited then m else { m with state := f m.pid } }) }.notify
            (.ofJob j .stopped)) := by
  have hs : sh.jobs.Sorted := hsh ▸ (Table.sorted_withCapacity c).run ops
  have hc : sh.jobs.Coherent :=
    hsh ▸ Table.Coherent.run (fun _ hk => absurd hk List.not_mem_nil) hops
  have hd' : sh.jobs.Distinct := hsh ▸ hd
  have hjmem : j ∈ sh.jobs.jobs := target_mem hj fun k hk => List.mem_of_getLast? hk
  obtain ⟨rep, tr', hsig, hwaits, -, -, hok⟩ := (foreground_spec h hq).2 j hj
  clear h
  obtain rfl : .ok () = rep := by simpa [hsig] using hcont
  obtain ⟨w, hw, rfl⟩ := hok rfl
  obtain ⟨hpids, -, rfl⟩ := waitMembers_spec hw
  obtain ⟨rest, hrest_def⟩ : ∃ rest : List (Pid × Member.Event),
      rest = (Trace.waits tr').map fun w => (w.1, waitEvent w.2) := ⟨_, rfl⟩
  have hrest : rest.map (·.1) = j.livePids := by
    rw [hrest_def, List.map_map]
    exact hpids
  have hmarks : (rest.map fun x => Table.Op.mark j.pgid x.1 x.2) =
      (Trace.waits tr').map fun w => .mark j.pgid w.1 (waitEvent w.2) := by
    rw [hrest_def, List.map_map]
    rfl
  have hmem : ∀ x ∈ rest, ∃ w ∈ Trace.waits tr', x = (w.1, waitEvent w.2) := by
    intro x hx
    obtain ⟨w, hw, rfl⟩ := List.mem_map.mp (hrest_def ▸ hx)
    exact ⟨w, hw, rfl⟩
  have hev : ∀ x ∈ rest, x.2 ≠ .continued := by
    intro x hx
    obtain ⟨w, -, rfl⟩ := hmem x hx
    exact waitEvent_ne_continued w.2
  obtain ⟨f, hf⟩ := Job.exists_agreeing (hrest ▸ Job.livePids_nodup (hd'.pids j hjmem))
  obtain ⟨hexit, hstop⟩ := Table.resume_then_marks hs hc hd' hjmem hrest hev hf
  rw [hmarks] at hexit hstop
  refine ⟨hwaits ▸ hpids, by rw [hwaits], fun hall => ?_, fun hsome => ⟨f, ?_, ?_⟩⟩
  · obtain ⟨hrun, hnotices⟩ := hexit fun x hx => by
      obtain ⟨w, hw, rfl⟩ := hmem x hx
      exact hall w (hwaits ▸ hw)
    rw [hrun, hnotices]
    rfl
  · intro w hw
    exact hf (w.1, waitEvent w.2) (hrest_def ▸ List.mem_map_of_mem (hwaits ▸ hw))
  · obtain ⟨w, hw, hwst⟩ := hsome
    obtain ⟨hrun, hnotices⟩ := hstop ⟨(w.1, waitEvent w.2),
      hrest_def ▸ List.mem_map_of_mem (hwaits ▸ hw), hwst⟩
    rw [hrun, hnotices]
    rfl

/-- A stopped two-stage job continued by `fg` on a system where every call succeeds: both stages
are waited for, in order, and both exit, so the job leaves with its done notice. -/
theorem fg_resumes_stopped_pipeline :
    let sh : Shell := { Shell.start (Config.default ⟨[], none⟩) false false with
      jobs := Table.run (.withCapacity 20)
        [.insert 5000000 .stopped "a | b" true [⟨5000000, .stopped⟩, ⟨5000001, .stopped⟩]] }
    let j : Job :=
      ⟨⟨1⟩, 5000000, .stopped, "a | b", true, [⟨5000000, .stopped⟩, ⟨5000001, .stopped⟩]⟩
    let run := (foreground [] sh).runWith allSucceed
    target sh.jobs none sh.jobs.current = .ok j ∧ run.1.Uneventful ∧
      (j.pgid, sigcont, .ok ()) ∈ run.1.signals ∧
      run.1.waits.map (·.1) = j.livePids ∧ run.2.1 = .proceed (statusAfterWaits 0 run.1.waits) ∧
      ((∀ w ∈ run.1.waits, waitEvent w.2 = .exited) →
        run.2.2 = { sh.print j.command with jobs := sh.jobs.remove j.id }.notify (.ofJob j .done)) := by
  intro sh j run
  have hops : ∀ op ∈ [Table.Op.insert 5000000 .stopped "a | b" true
      [⟨5000000, .stopped⟩, ⟨5000001, .stopped⟩]], op.Launchable := by
    intro op hop
    rw [List.mem_singleton] at hop
    subst hop
    exact ⟨by decide, .inr rfl⟩
  have hd : (Table.run (.withCapacity 20) [.insert 5000000 .stopped "a | b" true
      [⟨5000000, .stopped⟩, ⟨5000001, .stopped⟩]]).Distinct := ⟨by decide, by decide⟩
  have hj : target sh.jobs none sh.jobs.current = .ok j := rfl
  have hq : run.1.Uneventful := Trace.uneventful_runWith rfl _
  have hcont : (j.pgid, sigcont, .ok ()) ∈ run.1.signals := by
    have hsig : run.1.signals = [(j.pgid, sigcont, .ok ())] := rfl
    rw [hsig]
    exact List.mem_singleton_self _
  obtain ⟨hw, hst, hdone, -⟩ := foreground_waits_for_live_members 20 _ hops hd rfl hj
    (yields_runWith allSucceed _).1 hq hcont
  exact ⟨hj, hq, hcont, hw, hst, hdone⟩

end Builtin

/-- A system on which every call succeeds except signals: no process group exists. -/
def Sys.groupsGone : (c : Call) → c.Reply
  | .signalGroup _ _ => .error .srch
  | c => allSucceed c

namespace Builtin

/-! ## Refusals, and what `bg` and `fg` do to the table -/

/-- A refusal: status 1, with the table as it was. -/
def Refused (sh : Shell) (r : BuiltinOutcome × Shell) : Prop :=
  r.1 = .proceed 1 ∧ r.2.jobs = sh.jobs

/-- Every refusal of `bg` and `fg` returns 1 and keeps the table; `fg` on a gone group and a `bg`
that succeeds act on the group's lowest-numbered job. -/
theorem continue_refusals_keep_table {sh : Shell} (hs : sh.jobs.Sorted) (args : List String)
    {tr : Trace} {r : BuiltinOutcome × Shell} (hq : tr.Uneventful) :
    (Yields (background args sh) tr r →
      (∀ a, args.head? = some a →
        (∀ id, JobId.ofString? a = .ok id → sh.jobs.findById id = none) → Refused sh r) ∧
      (args = [] → (∀ k ∈ sh.jobs.jobs, k.status ≠ .stopped) → Refused sh r) ∧
      (∀ j, target sh.jobs args.head? sh.jobs.currentStopped = .ok j → j.status ≠ .stopped →
        Refused sh r) ∧
      (∀ j e, target sh.jobs args.head? sh.jobs.currentStopped = .ok j →
        (j.pgid, sigcont, .error e) ∈ tr.signals → Refused sh r) ∧
      (∀ j k, target sh.jobs args.head? sh.jobs.currentStopped = .ok j →
        (j.pgid, sigcont, .ok ()) ∈ tr.signals → sh.jobs.findByGroup j.pgid = some k →
        r = (.proceed 0, { sh with jobs := sh.jobs.replace k.id (some k.resumed) }.notify
          (.ofJob j .continued)))) ∧
    (Yields (foreground args sh) tr r →
      (∀ a, args.head? = some a →
        (∀ id, JobId.ofString? a = .ok id → sh.jobs.findById id = none) → Refused sh r) ∧
      (args = [] → sh.jobs.jobs = [] → Refused sh r) ∧
      (∀ j e, target sh.jobs args.head? sh.jobs.current = .ok j →
        (j.pgid, sigcont, .error e) ∈ tr.signals → e ≠ .srch → Refused sh r) ∧
      (∀ j k, target sh.jobs args.head? sh.jobs.current = .ok j →
        (j.pgid, sigcont, .error .srch) ∈ tr.signals → sh.jobs.findByGroup j.pgid = some k →
        r = (.proceed 0, { sh.print j.command with jobs := sh.jobs.remove k.id }.notify
          (.ofJob k .done)))) ∧
    (∀ j, target sh.jobs none sh.jobs.currentStopped = .ok j ↔ j ∈ sh.jobs.jobs ∧
      j.status = .stopped ∧ ∀ k ∈ sh.jobs.jobs, k.status = .stopped → k.id.toNat ≤ j.id.toNat) := by
  refine ⟨fun h => ?_, fun h => ?_, fun j => ?_⟩
  · obtain ⟨hname, hrun, hsent⟩ := background_spec h hq
    have hrefused : ∀ name, target sh.jobs args.head? sh.jobs.currentStopped = .error name →
        Refused sh r := by
      intro name hn
      obtain ⟨-, rfl⟩ := hname name hn
      exact ⟨rfl, rfl⟩
    refine ⟨fun a ha hunk => hrefused a (by rw [ha]; exact target_of_unknown hunk),
      fun hargs hnone => hrefused "current" ?_, fun j hj hne => ?_, fun j e hj he => ?_,
      fun j k hj hok hk => ?_⟩
    · -- no job is stopped: there is no default
      have hcur : sh.jobs.currentStopped = none :=
        List.find?_eq_none.mpr fun k hk => by simpa using hnone k (List.mem_reverse.mp hk)
      simp [hargs, target, hcur]
    · obtain ⟨-, rfl⟩ := hrun j hj hne
      exact ⟨rfl, rfl⟩
    · -- a signal was sent, so the target was stopped
      by_cases hst : j.status = .stopped
      · obtain ⟨rep, hsig, hfail, -⟩ := hsent j hj hst
        obtain rfl : .error e = rep := by simpa [hsig] using he
        rw [hfail e rfl]
        exact ⟨rfl, rfl⟩
      · rw [(hrun j hj hst).1] at he
        cases he
    · have hst : j.status = .stopped := by
        by_contra hst
        rw [(hrun j hj hst).1] at hok
        cases hok
      obtain ⟨rep, hsig, -, hsucc⟩ := hsent j hj hst
      obtain rfl : .ok () = rep := by simpa [hsig] using hok
      rw [hsucc rfl, Table.setStatus_running hk]
  · obtain ⟨hname, hsent⟩ := foreground_spec h hq
    have hrefused : ∀ name, target sh.jobs args.head? sh.jobs.current = .error name →
        Refused sh r := by
      intro name hn
      obtain ⟨-, rfl⟩ := hname name hn
      exact ⟨rfl, rfl⟩
    refine ⟨fun a ha hunk => hrefused a (by rw [ha]; exact target_of_unknown hunk),
      fun hargs hempty => hrefused "current" ?_, fun j e hj he hne => ?_,
      fun j k hj hgone hk => ?_⟩
    · simp [hargs, target, Table.current, hempty]
    · obtain ⟨rep, tr', hsig, -, -, hfail, -⟩ := hsent j hj
      obtain rfl : .error e = rep := by simpa [hsig] using he
      rw [(hfail e rfl hne).2]
      exact ⟨rfl, rfl⟩
    · obtain ⟨rep, tr', hsig, -, hsrch, -, -⟩ := hsent j hj
      obtain rfl : .error .srch = rep := by simpa [hsig] using hgone
      rw [(hsrch rfl).2, Table.setStatus_of_findByGroup hk, Table.remove_eq_replace]
      rfl
  · rw [← hs.currentStopped_eq_some_iff]
    cases sh.jobs.currentStopped <;> simp [target]

/-- Two stopped jobs share a group that no longer exists. `fg 2` reads the table alone: it takes
the group's lowest-numbered job out, job 1, reports it done and returns 0. -/
theorem fg_on_gone_group_follows_table :
    let sh : Shell := { Shell.start (Config.default ⟨[], none⟩) false false with
      jobs := Table.run (.withCapacity 20)
        [.insert 5000000 .stopped "a" false [], .insert 5000000 .stopped "b" false []] }
    let run := (foreground ["2"] sh).runWith groupsGone
    sh.jobs.Sorted ∧ run.1.Uneventful ∧
      run.2 = (.proceed 0, { sh.print "b" with jobs := sh.jobs.remove ⟨1⟩ }.notify
        (.ofJob ⟨⟨1⟩, 5000000, .stopped, "a", false, [⟨5000000, .stopped⟩]⟩ .done)) := by
  intro sh run
  have hs : sh.jobs.Sorted := (Table.sorted_withCapacity 20).run _
  have hq : run.1.Uneventful := Trace.uneventful_runWith rfl _
  have hgone : ((5000000 : Pid), sigcont, (.error .srch : Except Errno Unit)) ∈ run.1.signals := by
    have hsig : run.1.signals = [(5000000, sigcont, .error .srch)] := rfl
    rw [hsig]
    exact List.mem_singleton_self _
  exact ⟨hs, hq, ((continue_refusals_keep_table hs ["2"] hq).2.1
    (yields_runWith groupsGone _).1).2.2.2 ⟨⟨2⟩, 5000000, .stopped, "b", false,
      [⟨5000000, .stopped⟩]⟩ _ rfl hgone rfl⟩

/-- Two stopped jobs share a group that no longer exists: `fg 2` prints its target's command,
then takes job 1 out and reports it done, while job 2, its target, stays. -/
theorem fg_on_shared_group_removes_older_job :
    let sh : Shell := { Shell.start (Config.default ⟨[], none⟩) false false with
      jobs := Table.run (.withCapacity 20)
        [.insert 5000000 .stopped "a" false [], .insert 5000000 .stopped "b" false []] }
    let run := (foreground ["2"] sh).runWith groupsGone
    run.1.Uneventful ∧ run.1.signals = [(5000000, sigcont, .error .srch)] ∧
      (target sh.jobs (some "2") sh.jobs.current).map (·.command) = .ok "b" ∧
      run.2.1 = .proceed 0 ∧ run.2.2.jobs.ids = [⟨2⟩] ∧
      run.2.2.out = "b\n[1]+\tDone\t\ta\n" := by
  intro sh run
  exact ⟨Trace.uneventful_runWith rfl _, rfl, rfl, rfl, rfl, rfl⟩

end Builtin

end JobControl
