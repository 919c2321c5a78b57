import JobControl.Proofs.Shell.Resuming

/-!
# What a launch enters in the table

A launch opens the redirections, starts the stages, and then either registers the line as a
background job or waits for it in the foreground (`launch_phases`). Starting stages touches only
the diagnostics (`spawnStage_keeps`, `spawnRest_keeps`); what reaches the table is decided after.

* `registerBackground_table`: a background line with a started stage enters one running job of the
  leader's group (`leader?_eq_head?`: the first started stage), or nothing when no stage started;
* `waitStages_members`, `waitForeground_table`: a foreground line waits once for each started
  stage and enters a stopped job only when one of those waits reported a stop;
* `launch_registers_started_stages`: the two put together, for every answer the system gives.
-/

namespace JobControl

open Sys

namespace Launch

/-- The leader is the first started stage. -/
theorem leader?_eq_head? (ss : List Started) : leader? ss = (spawnedPids ss).head? := by
  induction ss with
  | nil => rfl
  | cons x ss ih => cases x <;> simp [leader?, spawnedPids, ih]

/-- Starting a stage changes nothing of the shell but its diagnostics. -/
theorem spawnStage_keeps {sh : Shell} {stage : Stage} {i o : Stdio} {l : Option Pid}
    {tr : Trace} {s : Started} {sh' : Shell}
    (h : Yields (spawnStage sh stage i o l) tr (.ok (s, sh'))) :
    sh'.jobs = sh.jobs ∧ sh'.out = sh.out := by
  unfold spawnStage at h
  obtain ⟨tr₁, program, tr₂, rfl, -, h₂⟩ := yields_bind_iff.mp h
  obtain ⟨rep, tr₃, rfl, h₃⟩ := yields_ask_bind_iff.mp h₂
  rcases rep with e | pid
  · simp only at h₃
    split at h₃
    · cases (yields_pure_iff.mp h₃).2
    split at h₃ <;> cases (yields_pure_iff.mp h₃).2 <;> exact ⟨rfl, rfl⟩
  · cases (yields_pure_iff.mp h₃).2
    exact ⟨rfl, rfl⟩

/-- Starting the stages of a pipeline changes nothing of the shell but its diagnostics. -/
theorem spawnRest_keeps {sh : Shell} {up out : Option Handle} {l : Option Pid}
    {stages : List Stage} {tr : Trace} {ss : List Started} {sh' : Shell}
    (h : Yields (spawnRest sh up out l stages) tr (.ok (ss, sh'))) :
    sh'.jobs = sh.jobs ∧ sh'.out = sh.out := by
  -- induction on the stages, the last one apart, as `spawnRest` recurses
  induction stages generalizing sh up l tr ss with
  | nil =>
    rw [spawnRest.eq_1] at h
    cases ((calls_closeAll _).quiet_bind_done h).1
    exact ⟨rfl, rfl⟩
  | cons stage rest ih =>
    cases rest with
    | nil =>
      rw [spawnRest.eq_2, yields_bind_iff] at h
      obtain ⟨tr₁, r₁, tr₂, rfl, h₁, h₂⟩ := h
      rcases r₁ with e | ⟨s, sh₁⟩ <;> simp only at h₂ <;> cases (yields_pure_iff.mp h₂).2
      exact spawnStage_keeps h₁
    | cons next rest =>
      rw [spawnRest.eq_3 _ _ _ _ _ _ (List.cons_ne_nil _ _), yields_ask_bind_iff] at h
      obtain ⟨pr, tr', rfl, h⟩ := h
      rcases pr with e | ⟨rd, wr⟩
      · simp only at h
        cases ((calls_closeAll _).quiet_bind_done h).1
      simp only [yields_bind_iff] at h
      obtain ⟨tr₁, r₁, tr₂, rfl, h₁, h₂⟩ := h
      rcases r₁ with e | ⟨s, sh₁⟩
      · simp only at h₂
        cases ((calls_closeAll _).quiet_bind_done h₂).1
      obtain ⟨hj₁, ho₁⟩ := spawnStage_keeps h₁
      simp only [yields_bind_iff] at h₂
      obtain ⟨tr₃, r₃, tr₄, rfl, h₃, h₄⟩ := h₂
      rcases r₃ with e | ⟨ss', sh₃⟩ <;> simp only at h₄ <;> cases (yields_pure_iff.mp h₄).2
      obtain ⟨hj₃, ho₃⟩ := ih h₃
      exact ⟨hj₃.trans hj₁, ho₃.trans ho₁⟩

/-- The member a foreground wait leaves: stopped when the wait reported a stop, else exited. -/
theorem waitEvent_ok_state (w : WaitResult) :
    (Builtin.waitEvent (.ok w)).state = if w.isStopped then .stopped else .exited := by
  by_cases h : w.isStopped <;> simp [Builtin.waitEvent, h, Member.Event.state]

theorem waitEvent_ok_eq_stopped (w : WaitResult) :
    Builtin.waitEvent (.ok w) = .stopped ↔ w.isStopped = true := by
  by_cases h : w.isStopped <;> simp [Builtin.waitEvent, h]

/-- One wait per started stage, in order; each stage becomes a member in the state its wait
reported. -/
theorem waitStages_members {ss : List Started} {st : Int32} {ms : List Member} {b : Bool}
    {tr : Trace} {st' : Int32} {ms' : List Member} {b' : Bool}
    (h : Yields (waitStages ss st ms b) tr (.ok (st', ms', b'))) :
    tr.waits.map (·.1) = spawnedPids ss ∧
      ms' = ms ++ tr.waits.map (fun w => ⟨w.1, (Builtin.waitEvent w.2).state⟩) ∧
      (b' = true ↔ b = true ∨ ∃ w ∈ tr.waits, Builtin.waitEvent w.2 = .stopped) := by
  -- induction on the stages; the members and the flag are accumulated along
  induction ss generalizing st ms b tr with
  | nil =>
    rw [waitStages.eq_1] at h
    obtain ⟨rfl, h⟩ := yields_pure_iff.mp h
    cases h
    simp [spawnedPids]
  | cons stage rest ih =>
    cases stage with
    | failed c =>
      rw [waitStages.eq_2] at h
      exact ih h
    | spawned pid =>
      rw [waitStages.eq_3, yields_ask_bind_iff] at h
      obtain ⟨rep, tr', rfl, h⟩ := h
      rcases rep with e | w
      · cases (yields_pure_iff.mp h).2
      obtain ⟨hpids, rfl, hstop⟩ := ih h
      have hw : Trace.waits (⟨.waitFor pid, .ok w⟩ :: tr') =
          ((pid, .ok w) : Pid × Except Errno WaitResult) :: Trace.waits tr' := rfl
      refine ⟨by rw [hw, List.map_cons, hpids]; rfl, ?_, ?_⟩
      · rw [hw, List.map_cons, waitEvent_ok_state]
        simp
      · rw [hstop, hw]
        simp only [Bool.or_eq_true, List.mem_cons, exists_eq_or_imp, waitEvent_ok_eq_stopped]
        tauto

theorem spawnedPids_eq_nil_of_leader?_eq_none {ss : List Started} (h : leader? ss = none) :
    spawnedPids ss = [] := by
  rw [leader?_eq_head?, List.head?_eq_none_iff] at h
  exact h

/-- A foreground line enters a stopped job of its started stages exactly when a wait reported a
stop and the table has room. -/
theorem waitForeground_table {sh : Shell} {ss : List Started} {cmd : String} {isP : Bool}
    {tr : Trace} {lo : LaunchOutcome} {sh' : Shell}
    (h : Yields (waitForeground sh ss cmd isP) tr (.ok (lo, sh'))) :
    tr.waits.map (·.1) = spawnedPids ss ∧
      ((∀ w ∈ tr.waits, Builtin.waitEvent w.2 ≠ .stopped) → sh'.jobs = sh.jobs) ∧
      ∀ pgid, leader? ss = some pgid → (∃ w ∈ tr.waits, Builtin.waitEvent w.2 = .stopped) →
        (∀ id t, sh.jobs.insert pgid .stopped cmd isP
            (tr.waits.map fun w => ⟨w.1, (Builtin.waitEvent w.2).state⟩) = .ok (id, t) →
          sh'.jobs = t ∧ ∃ s, lo = .stopped (some id) s) ∧
        (∀ e, sh.jobs.insert pgid .stopped cmd isP
            (tr.waits.map fun w => ⟨w.1, (Builtin.waitEvent w.2).state⟩) = .error e →
          sh'.jobs = sh.jobs ∧ ∃ s, lo = .stopped none s) := by
  unfold waitForeground at h
  split at h
  case h_1 hlead =>
    obtain ⟨rfl, h⟩ := yields_pure_iff.mp h
    cases h
    refine ⟨by simp [spawnedPids_eq_nil_of_leader?_eq_none hlead], fun _ => rfl, ?_⟩
    intro pgid hp
    simp [hlead] at hp
  case h_2 pgid hlead =>
    obtain ⟨tr₁, r₁, tr₂, rfl, h₁, h₂⟩ := yields_bind_iff.mp h
    clear h
    rcases r₁ with e | ⟨status, members, stopped⟩
    · cases (yields_pure_iff.mp h₂).2
    obtain ⟨hpids, rfl, hstop⟩ := waitStages_members h₁
    simp only [Bool.false_eq_true, false_or] at hstop
    simp only [List.nil_append] at h₂
    split at h₂
    case isTrue hns =>
      obtain ⟨rfl, hr⟩ := yields_pure_iff.mp h₂
      cases hr
      have hnone : ¬ ∃ w ∈ Trace.waits tr₁, Builtin.waitEvent w.2 = .stopped := by
        intro hex
        simp [hstop.mpr hex] at hns
      refine ⟨by simpa using hpids, fun _ => rfl, fun pgid' _ hex => absurd (by simpa using hex) hnone⟩
    case isFalse hs =>
      have hstopped : ∃ w ∈ Trace.waits tr₁, Builtin.waitEvent w.2 = .stopped :=
        hstop.mp (by simpa using hs)
      split at h₂
      case h_1 id t hins =>
        obtain ⟨rfl, hr⟩ := yields_pure_iff.mp h₂
        cases hr
        refine ⟨by simpa using hpids, fun hno => ?_, fun pgid' hp' _ => ?_⟩
        · obtain ⟨w, hw, hws⟩ := hstopped
          exact absurd hws (hno w (by simpa using hw))
        obtain rfl : pgid = pgid' := Option.some.inj (hlead.symm.trans hp')
        simp only [List.append_nil]
        refine ⟨fun id' t' hins' => ?_, fun e hins' => ?_⟩
        · obtain ⟨rfl, rfl⟩ := Prod.mk.inj (Except.ok.inj (hins.symm.trans hins'))
          refine ⟨?_, _, rfl⟩
          split <;> rfl
        · cases hins.symm.trans hins'
      case h_2 e hins =>
        obtain ⟨hr, -, hw₂, -⟩ := (Calls.ask (by rfl)).quiet_bind_done h₂
        cases hr
        refine ⟨by simp [hw₂, hpids], fun hno => ?_, fun pgid' hp' _ => ?_⟩
        · obtain ⟨w, hw, hws⟩ := hstopped
          exact absurd hws (hno w (by simp [hw₂, hw]))
        obtain rfl : pgid = pgid' := Option.some.inj (hlead.symm.trans hp')
        simp only [Trace.waits_append, hw₂, List.append_nil]
        refine ⟨fun id' t' hins' => ?_, fun e' _ => ⟨rfl, _, rfl⟩⟩
        cases hins.symm.trans hins'

/-- A background line with a started stage enters one running job of its started stages, unless
the table is full. -/
theorem registerBackground_table (sh : Shell) (ss : List Started) (cmd : String) (isP : Bool) :
    (leader? ss = none → (registerBackground sh ss cmd isP).2 = sh) ∧
    ∀ pgid, leader? ss = some pgid →
      (∀ id t, sh.jobs.insert pgid .running cmd isP
          ((spawnedPids ss).map fun pid => ⟨pid, .running⟩) = .ok (id, t) →
        registerBackground sh ss cmd isP = (.background (some id) pgid,
          { sh with jobs := t }.print ("[" ++ id.toString ++ "] " ++ toString pgid.toInt))) ∧
      (∀ e, sh.jobs.insert pgid .running cmd isP
          ((spawnedPids ss).map fun pid => ⟨pid, .running⟩) = .error e →
        registerBackground sh ss cmd isP = (.background none pgid, sh.report e.message)) := by
  refine ⟨fun hlead => ?_, fun pgid hlead => ⟨fun id t hins => ?_, fun e hins => ?_⟩⟩
  · unfold registerBackground
    simp only [hlead]
  · unfold registerBackground
    simp only [hlead, hins]
  · unfold registerBackground
    simp only [hlead, hins]

/-- A launch that does not fail opens and starts, then registers a background line or waits for a
foreground one. -/
theorem launch_phases {sh : Shell} {p : Pipeline} {cmd : String} {tr : Trace}
    {lo : LaunchOutcome} {sh' : Shell} (h : Yields (sh.launch p cmd) tr (.ok (lo, sh'))) :
    ∃ (tr₁ tr₂ : Trace) (sh₁ : Shell), tr = tr₁ ++ tr₂ ∧
      tr₁.spawns.map (·.1.stage) = p.stages ∧ tr₁.waits = [] ∧
      sh₁.jobs = sh.jobs ∧ sh₁.out = sh.out ∧
      (p.background = true → tr₂ = [] ∧
        (lo, sh') = registerBackground sh₁ (tr₁.spawns.map (startedOf ·.2)) cmd p.isPipeline) ∧
      (p.background = false → Yields (waitForeground sh₁ (tr₁.spawns.map (startedOf ·.2)) cmd
        p.isPipeline) tr₂ (.ok (lo, sh'))) := by
  unfold Shell.launch at h
  rw [yields_bind_iff] at h
  obtain ⟨tr₀, r₀, trr, rfl, h₀, hr⟩ := h
  obtain ⟨hs₀, hw₀, -⟩ := openRedirects_spec h₀
  rcases r₀ with e | ⟨input, output⟩
  · cases (yields_pure_iff.mp hr).2
  simp -zeta only at hr
  extract_lets finish at hr
  obtain ⟨tr₃, rs, tr₄, rfl, hw₃, hss, hkeep, h₄⟩ : ∃ (tr₃ : Trace)
      (rs : Except LaunchError (List Started × Shell)) (tr₄ : Trace), trr = tr₃ ++ tr₄ ∧
      tr₃.waits = [] ∧
      (∀ ss sh₁, rs = .ok (ss, sh₁) →
        tr₃.spawns.map (·.1.stage) = p.stages ∧ ss = tr₃.spawns.map (startedOf ·.2)) ∧
      (∀ ss sh₁, rs = .ok (ss, sh₁) → sh₁.jobs = sh.jobs ∧ sh₁.out = sh.out) ∧
      Yields (finish rs) tr₄ (.ok (lo, sh')) := by
    split at hr
    case h_1 hrest =>
      rw [yields_bind_iff] at hr
      obtain ⟨tr₃, r₃, tr₄, rfl, h₃, h₄⟩ := hr
      obtain ⟨hw₃, -, req, rep, hs₃, hstage, hst⟩ := spawnStage_spec h₃
      rcases r₃ with e | ⟨s, sh₁⟩
      · exact ⟨tr₃, .error e, tr₄, rfl, hw₃, by simp, by simp, by simpa using h₄⟩
      · refine ⟨tr₃, .ok ([s], sh₁), tr₄, rfl, hw₃, ?_, ?_, by simpa using h₄⟩
        · rintro ss sh' ⟨⟩
          simp [hs₃, hstage, hst s sh₁ rfl, Pipeline.stages, hrest]
        · rintro ss sh' ⟨⟩
          exact spawnStage_keeps h₃
    case h_2 =>
      rw [yields_bind_iff] at hr
      obtain ⟨tr₃, rs, tr₄, rfl, h₃, h₄⟩ := hr
      obtain ⟨hw₃, -, hss⟩ := spawnRest_spec h₃
      refine ⟨tr₃, rs, tr₄, rfl, hw₃, hss, ?_, h₄⟩
      rintro ss sh₁ rfl
      exact spawnRest_keeps h₃
  clear hr
  simp only [finish] at h₄
  rcases rs with e | ⟨ss, sh₁⟩
  · cases (yields_pure_iff.mp h₄).2
  obtain ⟨hstages, rfl⟩ := hss ss sh₁ rfl
  obtain ⟨hj, ho⟩ := hkeep _ sh₁ rfl
  refine ⟨tr₀ ++ tr₃, tr₄, sh₁, by simp, by simp [hs₀, hstages], by simp [hw₀, hw₃], hj, ho,
    fun hbg => ?_, fun hbg => ?_⟩
  · simp only [hbg, if_true] at h₄
    obtain ⟨rfl, hres⟩ := yields_pure_iff.mp h₄
    exact ⟨rfl, by simpa [hs₀] using Except.ok.inj hres⟩
  · simp only [hbg] at h₄
    simpa [hs₀] using h₄

/-- What a launch that does not fail enters in the table, whatever the system answers to its starts
and waits. -/
theorem launch_registers_started_stages {sh : Shell} {p : Pipeline} {cmd : String} {tr : Trace}
    {lo : LaunchOutcome} {sh' : Shell} (h : Yields (sh.launch p cmd) tr (.ok (lo, sh'))) :
    let ss := tr.spawns.map (startedOf ·.2)
    let isP := decide (1 < p.stages.length)
    tr.spawns.map (·.1.stage) = p.stages ∧
    (p.background = true → ∀ pgid, (spawnedPids ss).head? = some pgid →
      (∀ id t, sh.jobs.insert pgid .running cmd isP
          ((spawnedPids ss).map fun pid => ⟨pid, .running⟩) = .ok (id, t) →
        lo = .background (some id) pgid ∧ sh'.jobs = t ∧
          sh'.out = sh.out ++ "[" ++ id.toString ++ "] " ++ toString pgid.toInt ++ "\n") ∧
      (∀ e, sh.jobs.insert pgid .running cmd isP
          ((spawnedPids ss).map fun pid => ⟨pid, .running⟩) = .error e →
        lo = .background none pgid ∧ sh'.jobs = sh.jobs)) ∧
    (p.background = true → spawnedPids ss = [] → sh'.jobs = sh.jobs) ∧
    (p.background = false → (∀ w ∈ tr.waits, Builtin.waitEvent w.2 ≠ .stopped) →
      sh'.jobs = sh.jobs) ∧
    (p.background = false → ∀ pgid, (spawnedPids ss).head? = some pgid →
      (∃ w ∈ tr.waits, Builtin.waitEvent w.2 = .stopped) →
      tr.waits.map (·.1) = spawnedPids ss ∧
      (∀ id t, sh.jobs.insert pgid .stopped cmd isP
          (tr.waits.map fun w => ⟨w.1, (Builtin.waitEvent w.2).state⟩) = .ok (id, t) →
        sh'.jobs = t ∧ ∃ s, lo = .stopped (some id) s) ∧
      (∀ e, sh.jobs.insert pgid .stopped cmd isP
          (tr.waits.map fun w => ⟨w.1, (Builtin.waitEvent w.2).state⟩) = .error e →
        sh'.jobs = sh.jobs ∧ ∃ s, lo = .stopped none s)) := by
  obtain ⟨tr₁, tr₂, sh₁, rfl, hstages, hw₁, hj, ho, hbg, hfg⟩ := launch_phases h
  clear h
  have hisP : p.isPipeline = decide (1 < p.stages.length) :=
    Bool.eq_iff_iff.mpr (by rw [Pipeline.isPipeline_iff, decide_eq_true_iff])
  have hne : tr₁.spawns.map (startedOf ·.2) ≠ [] := by
    intro hnil
    rw [List.map_eq_nil_iff] at hnil
    simp [hnil, Pipeline.stages] at hstages
  have hs₂ : tr₂.spawns = [] := by
    cases hb : p.background
    · exact (waitForeground_spec hne (hfg hb)).1
    · rw [(hbg hb).1]
      rfl
  intro ss isP
  replace hisP : p.isPipeline = isP := hisP
  have hss : ss = tr₁.spawns.map (startedOf ·.2) := by simp [ss, hs₂]
  rw [hss]
  refine ⟨by simp [hs₂, hstages], fun hb pgid hpgid => ?_, fun hb hnone => ?_, fun hb hquiet => ?_,
    fun hb pgid hpgid hstop => ?_⟩
  · obtain ⟨rfl, hreg⟩ := hbg hb
    obtain ⟨hok, herr⟩ := (registerBackground_table sh₁ _ cmd p.isPipeline).2 pgid
      ((leader?_eq_head? _).trans hpgid)
    refine ⟨fun id t hins => ?_, fun e hins => ?_⟩
    · rw [← hj, ← hisP] at hins
      rw [hok id t hins] at hreg
      obtain ⟨rfl, rfl⟩ := Prod.mk.inj hreg
      refine ⟨rfl, rfl, ?_⟩
      simp only [Shell.print, ho, String.append_assoc]
    · rw [← hj, ← hisP] at hins
      rw [herr e hins] at hreg
      obtain ⟨rfl, rfl⟩ := Prod.mk.inj hreg
      exact ⟨rfl, hj⟩
  · obtain ⟨rfl, hreg⟩ := hbg hb
    have hlead : leader? (tr₁.spawns.map (startedOf ·.2)) = none := by
      rw [leader?_eq_head?, hnone]
      rfl
    rw [← hj, ← (registerBackground_table sh₁ _ cmd p.isPipeline).1 hlead, ← hreg]
  · obtain ⟨-, hkeep, -⟩ := waitForeground_table (hfg hb)
    rw [← hj]
    exact hkeep fun w hw => hquiet w (by simp [hw₁, hw])
  · obtain ⟨hpids, -, hstopped⟩ := waitForeground_table (hfg hb)
    have hwaits : (tr₁ ++ tr₂).waits = tr₂.waits := by simp [hw₁]
    rw [hwaits] at hstop ⊢
    obtain ⟨hok, herr⟩ := hstopped pgid ((leader?_eq_head? _).trans hpgid) hstop
    rw [hj, hisP] at hok herr
    exact ⟨hpids, hok, herr⟩

end Launch

/-- A system on which every call succeeds and a two-stage pipeline gets two pids: 20 for the
process that leads a new group, 21 for the one that joins it. -/
def Sys.distinctPids : (c : Call) → c.Reply
  | .spawn req => .ok (if req.group.isNone then 20 else 21)
  | c => allSucceed c

namespace Launch

/-- `a | b &` with pids 20 and 21: one running job with both stages as members, acknowledged as
`[1] 20`. -/
theorem background_pipeline_enters_one_job :
    let sh := Shell.start (Config.default ⟨[], none⟩) false false
    let p : Pipeline := ⟨⟨"a", []⟩, [⟨"b", []⟩], none, none, true⟩
    let t : Table :=
      ⟨[⟨⟨1⟩, 20, .running, "a | b", true, [⟨20, .running⟩, ⟨21, .running⟩]⟩], 2, 20⟩
    let sh' := { sh with jobs := t }.print "[1] 20"
    let run := (sh.launch p "a | b").runWith distinctPids
    Yields (sh.launch p "a | b") run.1 (.ok (.background (some ⟨1⟩) 20, sh')) ∧
      run.1.spawns.map (·.1.stage) = p.stages ∧ sh'.jobs = t ∧
      sh'.out = sh.out ++ "[" ++ (⟨1⟩ : JobId).toString ++ "] " ++ toString (20 : Pid).toInt ++
        "\n" := by
  intro sh p t sh' run
  -- the program search splits strings, which only unfolding everything evaluates
  have hrun : run.2 = .ok (.background (some ⟨1⟩) 20, sh') := by with_unfolding_all rfl
  have h : Yields (sh.launch p "a | b") run.1 (.ok (.background (some ⟨1⟩) 20, sh')) :=
    hrun ▸ (yields_runWith distinctPids _).1
  obtain ⟨hstages, hbg, -⟩ := launch_registers_started_stages h
  obtain ⟨-, hjobs, hout⟩ :=
    (hbg rfl 20 (by with_unfolding_all rfl)).1 ⟨1⟩ t (by with_unfolding_all rfl)
  exact ⟨h, hstages, hjobs, hout⟩

end Launch

end JobControl
