import JobControl.Proofs.Shell.Status

/-!
# Collecting child changes, as a fold

A collection (`Table.drain`) asks whether a child has changed since the last one, sweeps the
ready reports, and applies them in the order reported. Whatever the system answers, it does what
a plain fold over the sweep does (`drain_collects_reports`): a report of an exit or a kill, of a
stop or of a continuation of `pid` marks that event in the group of the lowest-numbered job that
lists `pid`, else in the group the system gives for `pid`, else in the group numbered `pid`; a
report for a group that no job has is dropped, and every other report is skipped. With a signal
registration and nothing announced, nothing is done at all.

* `Table.routeTo`, `Table.collectReport`: the route of a report and one step of the fold;
* `drain_runWith`: a collection answered by any system is the fold over its sweep;
* `foldl_collectReport_eq_run`: the fold is a run of `mark` calls, so what the table's law of
  notices says of runs holds of collections; in particular (`done_ids_nodup_of_marks`) no number
  is reported done twice, in one collection or over many in a row;
* `Shell.reap_of_uneventful`: a collection whose reports carry no change leaves the shell as it
  was, and sends no signal and waits for nothing.
-/

namespace JobControl

open Sys

namespace Sys

/-- Answering `x >>= f` by a function ends where answering `f` on the result of `x` ends. -/
theorem runWith_bind_snd {α β : Type} (answer : (c : Call) → c.Reply) (x : Sys α)
    (f : α → Sys β) :
    ((x >>= f).runWith answer).2 = ((f (x.runWith answer).2).runWith answer).2 := by
  induction x with
  | done a => rfl
  | call c k ih => exact ih (answer c)

theorem runWith_ask_snd (answer : (c : Call) → c.Reply) (c : Call) :
    ((ask c).runWith answer).2 = answer c :=
  rfl

theorem runWith_ask_bind_snd {β : Type} (answer : (c : Call) → c.Reply) (c : Call)
    (f : c.Reply → Sys β) : ((ask c >>= f).runWith answer).2 = ((f (answer c)).runWith answer).2 :=
  rfl

/-- The sweep of an exchange, if it is one. -/
def Exchange.sweep? : Exchange → Option Sweep
  | ⟨.sweep, sw⟩ => some sw
  | _ => none

/-- The signal an exchange sends, with the group, the signal and the reply. -/
def Exchange.signal? : Exchange → Option (Pid × Nat × Except Errno Unit)
  | ⟨.signalGroup g s, r⟩ => some (g, s, r)
  | _ => none

namespace Trace

/-- The sweeps of a run, in order. -/
def sweeps (tr : Trace) : List Sweep :=
  tr.filterMap Exchange.sweep?

/-- The signals a run sends, each with its reply. -/
def signals (tr : Trace) : List (Pid × Nat × Except Errno Unit) :=
  tr.filterMap Exchange.signal?

/-- No sweep of the run reports a change of a child. -/
def Uneventful (tr : Trace) : Prop :=
  ∀ sw ∈ tr.sweeps, ∀ r ∈ sw.reports, r.change? = none

@[simp] theorem sweeps_nil : sweeps [] = [] := rfl

@[simp] theorem signals_nil : signals [] = [] := rfl

@[simp] theorem sweeps_cons (e : Exchange) (tr : Trace) :
    sweeps (e :: tr) = e.sweep?.toList ++ sweeps tr := by
  cases h : e.sweep? <;> simp [sweeps, h]

@[simp] theorem signals_cons (e : Exchange) (tr : Trace) :
    signals (e :: tr) = e.signal?.toList ++ signals tr := by
  cases h : e.signal? <;> simp [signals, h]

@[simp] theorem sweeps_append (tr₁ tr₂ : Trace) : sweeps (tr₁ ++ tr₂) = sweeps tr₁ ++ sweeps tr₂ :=
  List.filterMap_append

@[simp] theorem signals_append (tr₁ tr₂ : Trace) :
    signals (tr₁ ++ tr₂) = signals tr₁ ++ signals tr₂ :=
  List.filterMap_append

theorem Uneventful.left {tr₁ tr₂ : Trace} (h : Uneventful (tr₁ ++ tr₂)) : Uneventful tr₁ :=
  fun sw hsw => h sw (by simp [hsw])

theorem Uneventful.right {tr₁ tr₂ : Trace} (h : Uneventful (tr₁ ++ tr₂)) : Uneventful tr₂ :=
  fun sw hsw => h sw (by simp [hsw])

/-- On a system whose sweeps report nothing, every run is uneventful. -/
theorem uneventful_runWith {answer : (c : Call) → c.Reply} (h : (answer .sweep).reports = [])
    {α : Type} (x : Sys α) : Uneventful (x.runWith answer).1 := by
  induction x with
  | done a =>
    intro sw hsw
    cases hsw
  | call c k ih =>
    intro sw hsw
    have hrun : (runWith answer (call c k)).1 = ⟨c, answer c⟩ :: (runWith answer (k (answer c))).1 :=
      rfl
    rw [hrun, sweeps_cons] at hsw
    rcases List.mem_append.mp hsw with hc | hk
    · cases c <;> simp [Exchange.sweep?] at hc
      rw [← Option.some.inj hc, h]
      simp
    · exact ih (answer c) sw hk

end Trace

end Sys

namespace Table

/-! ## The fold -/

/-- The group a report of `pid` goes to, when the system gives `groupOf p` as the group of a
process `p`: the group of the lowest-numbered job that lists `pid`, exited members included, else
the system's answer, else the group numbered `pid`. -/
def routeTo (t : Table) (groupOf : Pid → Except Errno Pid) (pid : Pid) : Pid :=
  match t.findByMember pid with
  | some j => j.pgid
  | none =>
    match groupOf pid with
    | .ok g => g
    | .error _ => pid

/-- An event of `pid` marked in the group `g`, its notice added to those gathered; nothing happens
when no job has that group. -/
def markIn (acc : Table × List Notice) (g pid : Pid) (e : Member.Event) : Table × List Notice :=
  match acc.1.findByGroup g with
  | none => acc
  | some _ => ((acc.1.mark g pid e).2, acc.2 ++ (acc.1.mark g pid e).1.toList)

/-- One report of the fold: an exit or a kill marks the process exited, a stop stopped, a
continuation running, each in the group it is routed to; any other report is skipped. -/
def collectReport (groupOf : Pid → Except Errno Pid) (acc : Table × List Notice) :
    Polled → Table × List Notice
  | .exited pid _ => markIn acc (acc.1.routeTo groupOf pid) pid .exited
  | .signaled pid _ => markIn acc (acc.1.routeTo groupOf pid) pid .exited
  | .stopped pid _ => markIn acc (acc.1.routeTo groupOf pid) pid .stopped
  | .continued pid => markIn acc (acc.1.routeTo groupOf pid) pid .continued
  | .other => acc
  | .interrupted => acc

/-- Collections one after another, the `i`-th answered by the `i`-th system: the table after the
last, and all their notices in order. -/
def drains (t : Table) (registered : Bool) : List ((c : Call) → c.Reply) → Table × List Notice
  | [] => (t, [])
  | answer :: answers =>
    let first := ((t.drain registered).runWith answer).2
    let rest := drains first.1 registered answers
    (rest.1, first.2 ++ rest.2)

/-! ## A collection is the fold -/

theorem groupFor_runWith (t : Table) (answer : (c : Call) → c.Reply) (pid : Pid) :
    ((t.groupFor pid).runWith answer).2 = t.routeTo (fun p => answer (.groupOf p)) pid := by
  unfold groupFor routeTo
  cases t.findByMember pid with
  | some j => rfl
  | none =>
    dsimp only
    rw [runWith_ask_bind_snd]
    cases answer (.groupOf pid) <;> rfl

theorem absorb_of_change {acc : Table × List Notice} {r : Polled} {pid : Pid} {e : Member.Event}
    (hr : r.change? = some (pid, e)) :
    absorb acc r = acc.1.groupFor pid >>= fun g => pure (markIn acc g pid e) := by
  simp only [absorb, hr]
  congr 1
  funext g
  unfold markIn
  cases acc.1.findByGroup g <;> rfl

theorem absorb_of_no_change {acc : Table × List Notice} {r : Polled} (hr : r.change? = none) :
    absorb acc r = pure acc := by
  simp [absorb, hr]

theorem absorb_runWith (answer : (c : Call) → c.Reply) (acc : Table × List Notice) (r : Polled) :
    ((absorb acc r).runWith answer).2 = collectReport (fun p => answer (.groupOf p)) acc r := by
  cases r with
  | other => rw [absorb_of_no_change rfl]; rfl
  | interrupted => rw [absorb_of_no_change rfl]; rfl
  | exited pid code =>
    rw [absorb_of_change rfl, runWith_bind_snd, groupFor_runWith]
    rfl
  | signaled pid sig =>
    rw [absorb_of_change rfl, runWith_bind_snd, groupFor_runWith]
    rfl
  | stopped pid sig =>
    rw [absorb_of_change rfl, runWith_bind_snd, groupFor_runWith]
    rfl
  | continued pid =>
    rw [absorb_of_change rfl, runWith_bind_snd, groupFor_runWith]
    rfl

theorem foldlM_absorb_runWith (answer : (c : Call) → c.Reply) (reports : List Polled)
    (acc : Table × List Notice) :
    ((reports.foldlM absorb acc).runWith answer).2 =
      reports.foldl (collectReport fun p => answer (.groupOf p)) acc := by
  induction reports generalizing acc with
  | nil => rfl
  | cons r rs ih => rw [List.foldlM_cons, runWith_bind_snd, absorb_runWith, ih, List.foldl_cons]

/-- A collection answered by any system: nothing when a registration announced no change, else
the fold over the reports of its sweep. -/
theorem drain_runWith (t : Table) (registered : Bool) (answer : (c : Call) → c.Reply) :
    ((t.drain registered).runWith answer).2 =
      if registered && !(answer .childSignalPending) then (t, [])
      else (answer .sweep).reports.foldl (collectReport fun p => answer (.groupOf p)) (t, []) := by
  have hsweep : ((ask .sweep >>= fun sweep => sweep.reports.foldlM absorb (t, [])).runWith
      answer).2 = (answer .sweep).reports.foldl (collectReport fun p => answer (.groupOf p)) (t, []) :=
    foldlM_absorb_runWith answer _ _
  unfold drain
  cases registered with
  | false => exact hsweep
  | true =>
    show ((ask .childSignalPending >>= fun b => if !b then pure (t, []) else
      (ask .sweep >>= fun sweep => sweep.reports.foldlM absorb (t, []))).runWith answer).2 = _
    rw [runWith_bind_snd, runWith_ask_snd]
    cases answer .childSignalPending
    · rfl
    · exact hsweep

/-! ## The fold is a run of `mark` calls -/

/-- Each step of the fold is no call or one `mark` call on the table. -/
theorem collectReport_eq_run (groupOf : Pid → Except Errno Pid) (acc : Table × List Notice)
    (r : Polled) :
    ∃ ops : List Op, (∀ op ∈ ops, ∃ g pid e, op = .mark g pid e) ∧
      collectReport groupOf acc r = (run acc.1 ops, acc.2 ++ (replies acc.1 ops).flatMap Reply.notices) := by
  have hmark : ∀ g pid e, ∃ ops : List Op, (∀ op ∈ ops, ∃ g pid e, op = .mark g pid e) ∧
      markIn acc g pid e = (run acc.1 ops, acc.2 ++ (replies acc.1 ops).flatMap Reply.notices) := by
    intro g pid e
    unfold markIn
    split
    · exact ⟨[], by simp, by simp [replies]⟩
    · refine ⟨[.mark g pid e], by simp, ?_⟩
      simp [replies, Op.apply, Reply.notices]
  cases r with
  | exited pid _ => exact hmark _ _ _
  | signaled pid _ => exact hmark _ _ _
  | stopped pid _ => exact hmark _ _ _
  | continued pid => exact hmark _ _ _
  | other => exact ⟨[], by simp, by simp [collectReport, replies]⟩
  | interrupted => exact ⟨[], by simp, by simp [collectReport, replies]⟩

theorem foldl_collectReport_eq_run (groupOf : Pid → Except Errno Pid) (reports : List Polled)
    (acc : Table × List Notice) :
    ∃ ops : List Op, (∀ op ∈ ops, ∃ g pid e, op = .mark g pid e) ∧
      reports.foldl (collectReport groupOf) acc =
        (run acc.1 ops, acc.2 ++ (replies acc.1 ops).flatMap Reply.notices) := by
  induction reports generalizing acc with
  | nil => exact ⟨[], by simp, by simp [replies]⟩
  | cons r rs ih =>
    obtain ⟨ops₁, hops₁, h₁⟩ := collectReport_eq_run groupOf acc r
    obtain ⟨ops₂, hops₂, h₂⟩ := ih (collectReport groupOf acc r)
    refine ⟨ops₁ ++ ops₂, fun op hop => ?_, ?_⟩
    · rcases List.mem_append.mp hop with hop | hop
      · exact hops₁ op hop
      · exact hops₂ op hop
    · rw [List.foldl_cons, h₂, h₁, run_append, replies_append, List.flatMap_append,
        List.append_assoc]

/-- A collection is a run of `mark` calls: its table is the run's, its notices the run's. -/
theorem drain_eq_run (t : Table) (registered : Bool) (answer : (c : Call) → c.Reply) :
    ∃ ops : List Op, (∀ op ∈ ops, ∃ g pid e, op = .mark g pid e) ∧
      ((t.drain registered).runWith answer).2 = (run t ops, (replies t ops).flatMap Reply.notices) := by
  rw [drain_runWith]
  split
  · exact ⟨[], by simp, by simp [replies]⟩
  · simpa using foldl_collectReport_eq_run (fun p => answer (.groupOf p)) (answer .sweep).reports
      (t, [])

theorem drains_eq_run (t : Table) (registered : Bool) (answers : List ((c : Call) → c.Reply)) :
    ∃ ops : List Op, (∀ op ∈ ops, ∃ g pid e, op = .mark g pid e) ∧
      t.drains registered answers = (run t ops, (replies t ops).flatMap Reply.notices) := by
  induction answers generalizing t with
  | nil => exact ⟨[], by simp, by simp [drains, replies]⟩
  | cons answer answers ih =>
    obtain ⟨ops₁, hops₁, h₁⟩ := drain_eq_run t registered answer
    obtain ⟨ops₂, hops₂, h₂⟩ := ih ((t.drain registered).runWith answer).2.1
    refine ⟨ops₁ ++ ops₂, fun op hop => ?_, ?_⟩
    · rcases List.mem_append.mp hop with hop | hop
      · exact hops₁ op hop
      · exact hops₂ op hop
    · simp only [drains]
      rw [h₂, h₁]
      simp only [run_append, replies_append, List.flatMap_append]

/-! ## No number is reported done twice -/

/-- The numbers reported done by the notices of a list of replies, in order. -/
def doneIds (rs : List Reply) : List JobId :=
  ((rs.flatMap Reply.notices).filter (·.kind = .done)).map (·.id)

@[simp] theorem doneIds_nil : doneIds [] = [] := rfl

theorem doneIds_cons (r : Reply) (rs : List Reply) :
    doneIds (r :: rs) = ((r.notices.filter (·.kind = .done)).map (·.id)) ++ doneIds rs := by
  simp [doneIds, List.filter_append]

/-- Along `mark` calls numbers only leave the table. -/
theorem mem_ids_of_run_marks {t : Table} {ops : List Op}
    (hops : ∀ op ∈ ops, ∃ g pid e, op = .mark g pid e) {x : JobId} (hx : x ∈ (run t ops).ids) :
    x ∈ t.ids := by
  induction ops generalizing t with
  | nil => exact hx
  | cons op ops ih =>
    obtain ⟨g, pid, e, rfl⟩ := hops op List.mem_cons_self
    exact (rewrites_mark t g pid e).mem_ids (ih (fun op hop => hops op (List.mem_cons_of_mem _ hop)) hx)

/-- Along `mark` calls on a sorted table, each number reported done was in the table and has
left it, and no number is reported done twice. -/
theorem done_ids_nodup_of_marks {t : Table} (hs : t.Sorted) {ops : List Op}
    (hops : ∀ op ∈ ops, ∃ g pid e, op = .mark g pid e) :
    (doneIds (replies t ops)).Nodup ∧
      ∀ x ∈ doneIds (replies t ops), x ∈ t.ids ∧ x ∉ (run t ops).ids := by
  induction ops generalizing t with
  | nil => simp [replies]
  | cons op ops ih =>
    obtain ⟨g, pid, e, rfl⟩ := hops op List.mem_cons_self
    have hrest : ∀ op ∈ ops, ∃ g pid e, op = .mark g pid e :=
      fun op hop => hops op (List.mem_cons_of_mem _ hop)
    have hrep := reports_mark hs g pid e
    obtain ⟨ihnd, ihmem⟩ := ih (hs.apply (.mark g pid e)) hrest
    have hfirst : ∀ x ∈ ((t.mark g pid e).1.toList.filter (·.kind = .done)).map (·.id),
        x ∈ t.ids ∧ x ∉ (t.mark g pid e).2.ids := by
      intro x hx
      simp only [List.mem_map, List.mem_filter, Option.mem_toList, decide_eq_true_eq] at hx
      obtain ⟨n, ⟨hn, hdone⟩, rfl⟩ := hx
      rcases hrep.none_or with hnone | ⟨j, hj, hjn | hjn⟩
      · rw [hnone] at hn
        cases hn
      · rw [hjn, Option.some.injEq] at hn
        subst hn
        exact ⟨mem_ids.mpr ⟨j, hj, rfl⟩, (hrep.done_iff j hj).mp hjn⟩
      · rw [hjn, Option.some.injEq] at hn
        subst hn
        cases hdone
    have hone : (((t.mark g pid e).1.toList.filter (·.kind = .done)).map (·.id)).Nodup := by
      cases (t.mark g pid e).1 with
      | none => simp
      | some n => by_cases hk : n.kind = .done <;> simp [hk]
    simp only [replies, doneIds_cons, Op.apply, Reply.notices, run_cons]
    refine ⟨List.nodup_append.mpr ⟨hone, ihnd, fun x hx y hy hxy => ?_⟩, fun x hx => ?_⟩
    · -- a number reported first has left, so it is not in the table the rest runs on
      subst hxy
      exact (hfirst x hx).2 (ihmem x hy).1
    · rcases List.mem_append.mp hx with hx | hx
      · exact ⟨(hfirst x hx).1, fun hin => (hfirst x hx).2 (mem_ids_of_run_marks hrest hin)⟩
      · exact ⟨(rewrites_mark t g pid e).mem_ids (ihmem x hx).1, (ihmem x hx).2⟩

/-- A collection is the fold of `collectReport` over its sweep, whatever the system answers, and
collections one after another never report one job done twice. -/
theorem drain_collects_reports (t : Table) (registered : Bool) :
    (∀ answer : (c : Call) → c.Reply, ((t.drain registered).runWith answer).2 =
      if registered && !(answer .childSignalPending) then (t, [])
      else (answer .sweep).reports.foldl (collectReport fun p => answer (.groupOf p)) (t, [])) ∧
    (t.Sorted → ∀ answers : List ((c : Call) → c.Reply),
      (((t.drains registered answers).2.filter (·.kind = .done)).map (·.id)).Nodup) := by
  refine ⟨drain_runWith t registered, fun hs answers => ?_⟩
  obtain ⟨ops, hops, h⟩ := drains_eq_run t registered answers
  rw [h]
  exact (done_ids_nodup_of_marks hs hops).1

end Table

/-- A system on which every call succeeds and every sweep reports that the processes `pids`
exited with status 0. -/
def Sys.exitsOf (pids : List Pid) : (c : Call) → c.Reply
  | .sweep => ⟨pids.map (.exited · 0), .stillAlive⟩
  | c => allSucceed c

namespace Table

/-- Two collections of a table holding one two-stage job, each sweep reporting that both stages
exited: the first reports the job done, the second finds no job for the reports. -/
theorem two_collections_report_done_once :
    let t := run (withCapacity 20) [.insert 10 .running "a | b" true [⟨10, .running⟩, ⟨11, .running⟩]]
    let answer := Sys.exitsOf [10, 11]
    t.Sorted ∧
      (((t.drains false [answer, answer]).2.filter (·.kind = .done)).map (·.id)).Nodup ∧
      ((t.drains false [answer, answer]).2.filter (·.kind = .done)).map (·.id) = [⟨1⟩] := by
  intro t answer
  have hs : t.Sorted := (sorted_withCapacity 20).run _
  exact ⟨hs, (drain_collects_reports t false).2 hs [answer, answer], by decide⟩

/-! ## A collection that reports no change -/

theorem foldlM_absorb_of_unchanged {reports : List Polled} (h : ∀ r ∈ reports, r.change? = none)
    (acc : Table × List Notice) : reports.foldlM absorb acc = pure acc := by
  induction reports generalizing acc with
  | nil => rfl
  | cons r rs ih =>
    rw [List.foldlM_cons, absorb_of_no_change (h r List.mem_cons_self)]
    exact ih (fun r' hr' => h r' (List.mem_cons_of_mem r hr')) acc

/-- A collection whose sweep reports no change does nothing, sends no signal and waits for
nothing. -/
theorem drain_of_uneventful {t : Table} {registered : Bool} {tr : Trace} {r : Table × List Notice}
    (h : Yields (t.drain registered) tr r) (hq : tr.Uneventful) :
    r = (t, []) ∧ tr.signals = [] ∧ tr.waits = [] := by
  have hsweep : ∀ {tr : Trace}, tr.Uneventful →
      Yields (ask .sweep >>= fun sweep => sweep.reports.foldlM absorb (t, [])) tr r →
      r = (t, []) ∧ tr.signals = [] ∧ tr.waits = [] := by
    intro tr hq h
    obtain ⟨sw, tr', rfl, h'⟩ := yields_ask_bind_iff.mp h
    have hsw : sw ∈ Trace.sweeps (⟨.sweep, sw⟩ :: tr') :=
      List.mem_append_left _ (List.mem_singleton_self _)
    rw [foldlM_absorb_of_unchanged (hq sw hsw)] at h'
    obtain ⟨rfl, rfl⟩ := yields_pure_iff.mp h'
    exact ⟨rfl, rfl, rfl⟩
  unfold drain at h
  cases registered with
  | false => exact hsweep hq h
  | true =>
    change Yields (ask .childSignalPending >>= fun b => if !b then pure (t, []) else
      (ask .sweep >>= fun sweep => sweep.reports.foldlM absorb (t, []))) tr r at h
    obtain ⟨b, tr', rfl, h'⟩ := yields_ask_bind_iff.mp h
    cases b with
    | false =>
      obtain ⟨rfl, rfl⟩ := yields_pure_iff.mp h'
      exact ⟨rfl, rfl, rfl⟩
    | true =>
      obtain ⟨rfl, hs, hw⟩ := hsweep (fun sw hsw => hq sw (by simp [hsw])) h'
      exact ⟨rfl, by simp [Exchange.signal?, hs], by simp [Exchange.wait?, hw]⟩

end Table

/-- A collection of child changes whose reports carry no change leaves the shell as it was, sends
no signal and waits for nothing. -/
theorem Shell.reap_of_uneventful {sh sh' : Shell} {tr : Trace} (h : Yields sh.reap tr sh')
    (hq : tr.Uneventful) : sh' = sh ∧ tr.signals = [] ∧ tr.waits = [] := by
  unfold Shell.reap at h
  rw [yields_bind_iff] at h
  obtain ⟨tr₁, ⟨t, ns⟩, tr₂, rfl, h₁, h₂⟩ := h
  obtain ⟨hr, hs, hw⟩ := Table.drain_of_uneventful h₁ hq.left
  obtain ⟨rfl, rfl⟩ := Prod.mk.inj hr
  obtain ⟨rfl, rfl⟩ := yields_pure_iff.mp h₂
  exact ⟨rfl, by simp [hs], by simp [hw]⟩

end JobControl
