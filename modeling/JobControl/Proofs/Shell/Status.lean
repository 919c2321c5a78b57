import JobControl.Proofs.Shell.Launching
import JobControl.Shell.Session

/-!
# The status a line leaves

`Shell.execute` collects child changes, runs the line, and collects again. Only running the line
sets the last status: collecting changes makes quiet calls only and leaves the status and the
settings alone (`Shell.reap_spec`), and no builtin writes the status itself
(`Builtin.run_lastStatus`); `Shell.dispatch` sets it from what the line came to.

For every line, every shell and every run, whatever the system answers
(`execute_sets_lastStatus`): a line with nothing to run leaves the status as it was, a line that
cannot be read sets 2, a builtin sets the status it returns or makes the shell exit with the
status untouched, and any other line sets 1 when its launch fails and otherwise the status of its
last stage (in the background: 0 once a stage started).
-/

namespace JobControl

open Sys

namespace Shell

@[simp] theorem print_lastStatus (sh : Shell) (line : String) :
    (sh.print line).lastStatus = sh.lastStatus := rfl

@[simp] theorem notify_lastStatus (sh : Shell) (n : Notice) :
    (sh.notify n).lastStatus = sh.lastStatus := rfl

@[simp] theorem report_lastStatus (sh : Shell) (msg : String) :
    (sh.report msg).lastStatus = sh.lastStatus := rfl

@[simp] theorem complain_lastStatus (sh : Shell) (builtin msg : String) :
    (sh.complain builtin msg).lastStatus = sh.lastStatus := rfl

/-- Notices go to the output stream and touch nothing else. -/
theorem notifyAll_eq (sh : Shell) (ns : List Notice) :
    sh.notifyAll ns = { sh with out := (sh.notifyAll ns).out } := by
  induction ns generalizing sh with
  | nil => rfl
  | cons n ns ih => exact ih (sh.notify n)

@[simp] theorem notifyAll_lastStatus (sh : Shell) (ns : List Notice) :
    (sh.notifyAll ns).lastStatus = sh.lastStatus := by
  rw [notifyAll_eq]

@[simp] theorem foldl_print_lastStatus (sh : Shell) (lines : List String) :
    (lines.foldl print sh).lastStatus = sh.lastStatus := by
  induction lines generalizing sh with
  | nil => rfl
  | cons line lines ih => exact ih (sh.print line)

@[simp] theorem notifyAll_config (sh : Shell) (ns : List Notice) :
    (sh.notifyAll ns).config = sh.config := by
  rw [notifyAll_eq]

end Shell

/-! ## Collecting child changes -/

namespace Table

theorem calls_groupFor (t : Table) (pid : Pid) : Calls (·.launches = false) (t.groupFor pid) := by
  unfold groupFor
  split
  · exact Calls.pure _
  · exact Calls.bind (Calls.ask (by rfl)) fun r => by cases r <;> exact Calls.pure _

theorem calls_absorb (acc : Table × List Notice) (r : Polled) :
    Calls (·.launches = false) (absorb acc r) := by
  unfold absorb
  split
  · exact Calls.pure _
  · exact Calls.bind (calls_groupFor _ _) fun g => by split <;> exact Calls.pure _

theorem calls_drain (t : Table) (registered : Bool) :
    Calls (·.launches = false) (t.drain registered) := by
  have hfold : ∀ (reports : List Polled) acc,
      Calls (·.launches = false) (reports.foldlM absorb acc) := by
    intro reports
    induction reports with
    | nil => exact fun _ => Calls.pure _
    | cons r rs ih => exact fun acc => Calls.bind (calls_absorb acc r) ih
  have hsweep : Calls (·.launches = false)
      (ask .sweep >>= fun sweep => sweep.reports.foldlM absorb (t, [])) :=
    Calls.bind (Calls.ask (by rfl)) fun _ => hfold _ _
  unfold drain
  split
  · refine Calls.bind (Calls.ask (by rfl)) fun b => ?_
    split
    · exact Calls.pure _
    · exact hsweep
  · exact hsweep

end Table

/-- Collecting child changes starts, waits for and fails nothing, and leaves the status and the
settings as they were. -/
theorem Shell.reap_spec {sh sh' : Shell} {tr : Trace} (h : Yields sh.reap tr sh') :
    tr.spawns = [] ∧ tr.waits = [] ∧ tr.failed = false ∧ sh'.lastStatus = sh.lastStatus ∧
      sh'.config = sh.config := by
  unfold Shell.reap at h
  rw [yields_bind_iff] at h
  obtain ⟨tr₁, ⟨t, ns⟩, tr₂, rfl, h₁, h₂⟩ := h
  obtain ⟨rfl, rfl⟩ := yields_pure_iff.mp h₂
  obtain ⟨hs, hw, hf⟩ := (Table.calls_drain _ _).quiet h₁
  simp [hs, hw, hf]

/-! ## Builtins leave the status to the line -/

namespace Builtin

theorem changeDir_lastStatus {args : List String} {sh : Shell} {tr : Trace}
    {r : BuiltinOutcome × Shell} (h : Yields (changeDir args sh) tr r) :
    r.2.lastStatus = sh.lastStatus := by
  unfold changeDir at h
  extract_lets arg finish at h
  have hfinish : ∀ target? tr r, Yields (finish target?) tr r →
      r.2.lastStatus = sh.lastStatus := by
    intro target? tr r hr
    simp only [finish] at hr
    split at hr
    · obtain ⟨rfl, rfl⟩ := yields_pure_iff.mp hr
      rfl
    · simp only [yields_ask_bind_iff] at hr
      obtain ⟨cur, tr', rfl, rep, tr'', rfl, hr⟩ := hr
      split at hr <;> obtain ⟨rfl, rfl⟩ := yields_pure_iff.mp hr
      · split <;> rfl
      · rfl
  clear_value finish arg
  split at h
  all_goals
    simp only [Sys.pure_eq_done, Sys.done_bind, yields_ask_bind_iff] at h
  · exact hfinish _ _ _ h
  · exact hfinish _ _ _ h
  · obtain ⟨env, tr', rfl, h⟩ := h
    exact hfinish _ _ _ h

theorem listJobs_lastStatus {sh : Shell} {tr : Trace} {r : BuiltinOutcome × Shell}
    (h : Yields (listJobs sh) tr r) : r.2.lastStatus = sh.lastStatus := by
  unfold listJobs at h
  rw [yields_bind_iff] at h
  obtain ⟨tr₁, sh₁, tr₂, rfl, h₁, h₂⟩ := h
  have hst := (Shell.reap_spec h₁).2.2.2.1
  split at h₂
  obtain ⟨rfl, rfl⟩ := yields_pure_iff.mp h₂
  simpa using hst

theorem foreground_lastStatus {args : List String} {sh : Shell} {tr : Trace}
    {r : BuiltinOutcome × Shell} (h : Yields (foreground args sh) tr r) :
    r.2.lastStatus = sh.lastStatus := by
  unfold foreground at h
  rw [yields_bind_iff] at h
  obtain ⟨tr₁, sh₁, tr₂, rfl, h₁, h₂⟩ := h
  have hst := (Shell.reap_spec h₁).2.2.2.1
  split at h₂
  · obtain ⟨rfl, rfl⟩ := yields_pure_iff.mp h₂
    simpa using hst
  simp only [yields_ask_bind_iff] at h₂
  obtain ⟨rep, tr₃, rfl, h₃⟩ := h₂
  split at h₃
  · obtain ⟨rfl, rfl⟩ := yields_pure_iff.mp h₃
    simpa using hst
  · obtain ⟨rfl, rfl⟩ := yields_pure_iff.mp h₃
    simpa using hst
  · rw [yields_bind_iff] at h₃
    obtain ⟨tr₄, waited, tr₅, rfl, -, h₅⟩ := h₃
    obtain ⟨rfl, rfl⟩ := yields_pure_iff.mp h₅
    simpa using hst

theorem background_lastStatus {args : List String} {sh : Shell} {tr : Trace}
    {r : BuiltinOutcome × Shell} (h : Yields (background args sh) tr r) :
    r.2.lastStatus = sh.lastStatus := by
  unfold background at h
  rw [yields_bind_iff] at h
  obtain ⟨tr₁, sh₁, tr₂, rfl, h₁, h₂⟩ := h
  have hst := (Shell.reap_spec h₁).2.2.2.1
  split at h₂
  · obtain ⟨rfl, rfl⟩ := yields_pure_iff.mp h₂
    simpa using hst
  split at h₂
  · obtain ⟨rfl, rfl⟩ := yields_pure_iff.mp h₂
    simpa using hst
  simp only [yields_ask_bind_iff] at h₂
  obtain ⟨rep, tr₃, rfl, h₃⟩ := h₂
  split at h₃ <;> obtain ⟨rfl, rfl⟩ := yields_pure_iff.mp h₃ <;> simpa using hst

/-- No builtin writes the last status: that is left to the line. -/
theorem run_lastStatus (b : Builtin) {args : List String} {sh : Shell} {tr : Trace}
    {r : BuiltinOutcome × Shell} (h : Yields (b.run args sh) tr r) :
    r.2.lastStatus = sh.lastStatus := by
  cases b with
  | cd => exact changeDir_lastStatus h
  | exit =>
    obtain ⟨rfl, rfl⟩ := yields_pure_iff.mp h
    unfold exitCode
    split
    · rfl
    · split <;> rfl
  | jobs => exact listJobs_lastStatus h
  | fg => exact foreground_lastStatus h
  | bg => exact background_lastStatus h

end Builtin

/-! ## Executing a line -/

namespace Shell

/-- What a run `tr` of executing `line` in `sh` comes to, when it ends with the outcome `o` and
the last status `s`: a line with nothing to run leaves the status as it was; a line that cannot
be read sets 2; a builtin, run on the shell after the first collection, sets the status it
returns or makes the shell exit with the status untouched; any other line sets 1 when a failing
answer abandoned its launch, and otherwise the status its run gives it (`Launch.LaunchStatus`).
Every line but `exit` lets the shell go on. -/
def SetsStatus (sh : Shell) (line : String) (tr : Trace) (o : LineOutcome) (s : Int32) : Prop :=
  match Pipeline.parse line sh.config.maxStages with
  | .ok none => o = .proceed ∧ s = sh.lastStatus
  | .error _ => o = .proceed ∧ s = 2
  | .ok (some p) =>
    match Builtin.lookup? p.program with
    | some b =>
      ∃ tr₁ sh₁ tr₂ bo sh₂ tr₃, tr = tr₁ ++ tr₂ ++ tr₃ ∧ Yields sh.reap tr₁ sh₁ ∧
        Yields (b.run p.first.args sh₁) tr₂ (bo, sh₂) ∧
        match bo with
        | .proceed status => o = .proceed ∧ s = status
        | .exit code => o = .exit code ∧ s = sh.lastStatus
    | none => o = .proceed ∧ (tr.failed = true → s = 1) ∧
        (tr.failed = false → Launch.LaunchStatus p tr s)

theorem execute_sets_lastStatus (sh : Shell) (line : String) {tr : Trace} {o : LineOutcome}
    {sh' : Shell} (h : Yields (sh.execute line) tr (o, sh')) :
    sh.SetsStatus line tr o sh'.lastStatus := by
  unfold execute at h
  rw [yields_bind_iff] at h
  obtain ⟨tr₁, sh₁, tr', rfl, h₁, h'⟩ := h
  rw [yields_bind_iff] at h'
  obtain ⟨tr₂, ⟨o₂, sh₂⟩, tr'', rfl, h₂, h''⟩ := h'
  rw [yields_bind_iff] at h''
  obtain ⟨tr₃, sh₃, tr₄, rfl, h₃, h₄⟩ := h''
  obtain ⟨rfl, rfl, rfl⟩ := yields_pure_pair_iff.mp h₄
  obtain ⟨hs₁, hw₁, hf₁, hst₁, hcfg₁⟩ := reap_spec h₁
  obtain ⟨hs₃, hw₃, hf₃, hst₃, -⟩ := reap_spec h₃
  rw [hst₃]
  unfold SetsStatus
  unfold dispatch at h₂
  rw [← hcfg₁]
  rcases hparse : Pipeline.parse line sh₁.config.maxStages with e | _ | p
  all_goals simp only [hparse] at h₂ ⊢
  case error =>
    obtain ⟨rfl, rfl, rfl⟩ := yields_pure_pair_iff.mp h₂
    exact ⟨rfl, rfl⟩
  case ok.none =>
    obtain ⟨rfl, rfl, rfl⟩ := yields_pure_pair_iff.mp h₂
    exact ⟨rfl, hst₁⟩
  case ok.some =>
    rcases hb : Builtin.lookup? p.program with _ | b
    all_goals simp only [hb] at h₂ ⊢
    case some =>
      rw [yields_bind_iff] at h₂
      obtain ⟨tr₅, ⟨bo, sh₅⟩, tr₆, rfl, h₅, h₆⟩ := h₂
      have hrun := Builtin.run_lastStatus b h₅
      cases bo with
      | proceed status =>
        obtain ⟨rfl, rfl, rfl⟩ := yields_pure_pair_iff.mp h₆
        exact ⟨tr₁, sh₁, tr₅, _, sh₅, tr₃, by simp, h₁, h₅, rfl, rfl⟩
      | exit code =>
        obtain ⟨rfl, rfl, rfl⟩ := yields_pure_pair_iff.mp h₆
        exact ⟨tr₁, sh₁, tr₅, _, sh₂, tr₃, by simp, h₁, h₅, rfl,
          hrun.trans hst₁⟩
    case none =>
      rw [yields_bind_iff] at h₂
      obtain ⟨tr₅, r₅, tr₆, rfl, h₅, h₆⟩ := h₂
      obtain ⟨hf₅, hlaunch⟩ := Launch.launch_spec h₅
      rcases r₅ with e | ⟨lo, sh₅⟩ <;>
        obtain ⟨rfl, rfl, rfl⟩ := yields_pure_pair_iff.mp h₆
      · refine ⟨rfl, fun _ => rfl, fun hfalse => ?_⟩
        simp [hf₁, hf₃, hf₅] at hfalse
      · refine ⟨rfl, fun htrue => ?_, fun _ => ?_⟩
        · simp [hf₁, hf₃, hf₅] at htrue
        · have hs : (tr₁ ++ (tr₅ ++ [] ++ (tr₃ ++ []))).spawns = tr₅.spawns := by
            simp [hs₁, hs₃]
          have hw : (tr₁ ++ (tr₅ ++ [] ++ (tr₃ ++ []))).waits = tr₅.waits := by
            simp [hw₁, hw₃]
          rw [Launch.LaunchStatus.congr hs hw]
          exact hlaunch lo sh₅ rfl

end Shell

/-- A system on which every call succeeds: every path is executable, every program starts and
exits with 0, and no child has news. -/
def Sys.allSucceed : (c : Call) → c.Reply
  | .isExecutable _ => true
  | .openRead _ => .ok 3
  | .openWrite _ _ => .ok 4
  | .close _ => ()
  | .pipe => .ok (5, 6)
  | .spawn _ => .ok 100
  | .waitFor _ => .ok (.exited 0)
  | .childSignalPending => false
  | .sweep => ⟨[], .stillAlive⟩
  | .groupOf pid => .ok pid
  | .signalGroup _ _ => .ok ()
  | .currentDir => .ok "/"
  | .changeDir _ => .ok ()
  | .environment => ⟨[("PATH", "/bin")], none⟩

theorem pipeline_run_sets_status :
    let sh := Shell.start (Config.default ⟨[], none⟩) false false
    let run := (sh.execute "false | true").runWith allSucceed
    Yields (sh.execute "false | true") run.1 run.2 ∧
      sh.SetsStatus "false | true" run.1 run.2.1 run.2.2.lastStatus :=
  -- stated for every shell and line first, so that nothing evaluates the concrete run
  have any_line : ∀ (sh : Shell) (line : String),
      let run := (sh.execute line).runWith allSucceed
      Yields (sh.execute line) run.1 run.2 ∧
        sh.SetsStatus line run.1 run.2.1 run.2.2.lastStatus :=
    fun sh line => ⟨(yields_runWith allSucceed _).1,
      Shell.execute_sets_lastStatus sh line (yields_runWith allSucceed _).1⟩
  any_line (Shell.start (Config.default ⟨[], none⟩) false false) "false | true"

end JobControl
