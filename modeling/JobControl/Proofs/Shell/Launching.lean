import JobControl.Proofs.Sys.Runs
import JobControl.Proofs.Shell.Reaping
import JobControl.Shell.Launch

/-!
# What a launch does, read from its runs

A launch is judged by what it asked the system and what the system answered. Of a run's trace
three things matter:

* `Trace.spawns`: the start requests made, each with its reply, in order;
* `Trace.waits`: the blocking waits made, each with its reply, in order;
* `Trace.failed`: whether an answer abandons a launch: a redirection that cannot be opened, a pipe
  that cannot be made, a start refused for lack of processes or memory, a failed wait.

Every other call (the program search, closing files, signalling a group, and every call the
collection of child changes makes) is quiet: it adds nothing to these (`Trace.quiet`).

For every run of `Shell.launch` (`launch_spec`): the launch fails exactly when the run has a
failing answer; otherwise the run starts one program per stage, in order, and the launch's status
is the last stage's (`StatusOfLast`) in the foreground, and in the background 0 as soon as one
stage started.
-/

namespace JobControl

open Sys

namespace Sys

/-- The stage a start request runs: the program's name as typed and its arguments. -/
def SpawnRequest.stage (req : SpawnRequest) : Stage :=
  ⟨req.argv0, req.args⟩

/-- The request and reply of a start. -/
def Exchange.spawn? : Exchange → Option (SpawnRequest × Except IoError Pid)
  | ⟨.spawn req, r⟩ => some (req, r)
  | _ => none

/-- The pid and reply of a blocking wait. -/
def Exchange.wait? : Exchange → Option (Pid × Except Errno WaitResult)
  | ⟨.waitFor pid, r⟩ => some (pid, r)
  | _ => none

/-- Whether an answer abandons a launch. -/
def Exchange.fails : Exchange → Bool
  | ⟨.openRead _, .error _⟩ => true
  | ⟨.openWrite _ _, .error _⟩ => true
  | ⟨.pipe, .error _⟩ => true
  | ⟨.spawn _, .error e⟩ => Launch.isExhaustion e
  | ⟨.waitFor _, .error _⟩ => true
  | _ => false

/-- The calls a launch is made of: opening files, making pipes, starting and waiting. -/
def Call.launches : Call → Bool
  | .openRead _ | .openWrite _ _ | .pipe | .spawn _ | .waitFor _ => true
  | _ => false

theorem Exchange.quiet {e : Exchange} (h : e.1.launches = false) :
    e.spawn? = none ∧ e.wait? = none ∧ e.fails = false := by
  obtain ⟨c, r⟩ := e
  cases c <;> simp_all [Call.launches, Exchange.spawn?, Exchange.wait?, Exchange.fails]

namespace Trace

/-- The starts of a run, each with its reply. -/
def spawns (tr : Trace) : List (SpawnRequest × Except IoError Pid) :=
  tr.filterMap Exchange.spawn?

/-- The blocking waits of a run, each with its reply. -/
def waits (tr : Trace) : List (Pid × Except Errno WaitResult) :=
  tr.filterMap Exchange.wait?

/-- Whether a run has an answer that abandons a launch. -/
def failed (tr : Trace) : Bool :=
  tr.any Exchange.fails

@[simp] theorem spawns_nil : spawns [] = [] := rfl

@[simp] theorem waits_nil : waits [] = [] := rfl

@[simp] theorem failed_nil : failed [] = false := rfl

@[simp] theorem spawns_cons (e : Exchange) (tr : Trace) :
    spawns (e :: tr) = e.spawn?.toList ++ spawns tr := by
  cases h : e.spawn? <;> simp [spawns, h]

@[simp] theorem waits_cons (e : Exchange) (tr : Trace) :
    waits (e :: tr) = e.wait?.toList ++ waits tr := by
  cases h : e.wait? <;> simp [waits, h]

@[simp] theorem failed_cons (e : Exchange) (tr : Trace) :
    failed (e :: tr) = (e.fails || failed tr) :=
  List.any_cons

@[simp] theorem spawns_append (tr₁ tr₂ : Trace) :
    spawns (tr₁ ++ tr₂) = spawns tr₁ ++ spawns tr₂ :=
  List.filterMap_append

@[simp] theorem waits_append (tr₁ tr₂ : Trace) :
    waits (tr₁ ++ tr₂) = waits tr₁ ++ waits tr₂ :=
  List.filterMap_append

@[simp] theorem failed_append (tr₁ tr₂ : Trace) :
    failed (tr₁ ++ tr₂) = (failed tr₁ || failed tr₂) :=
  List.any_append

/-- A run of quiet calls starts, waits for and fails nothing. -/
theorem quiet {tr : Trace} (h : ∀ e ∈ tr, e.1.launches = false) :
    tr.spawns = [] ∧ tr.waits = [] ∧ tr.failed = false := by
  induction tr with
  | nil => simp
  | cons e tr ih =>
    obtain ⟨hs, hw, hf⟩ := Exchange.quiet (h e List.mem_cons_self)
    obtain ⟨ihs, ihw, ihf⟩ := ih fun e' he' => h e' (List.mem_cons_of_mem e he')
    simp [hs, hw, hf, ihs, ihw, ihf]

end Trace

/-- A run of a program that makes only quiet calls starts, waits for and fails nothing. -/
theorem Calls.quiet {α : Type} {x : Sys α} {tr : Trace} {a : α}
    (hx : Calls (·.launches = false) x) (h : Yields x tr a) :
    tr.spawns = [] ∧ tr.waits = [] ∧ tr.failed = false :=
  Trace.quiet (hx.mem_trace h)

/-- Quiet calls, then a fixed result. -/
theorem Calls.quiet_bind_done {α β : Type} {x : Sys α} {b c : β} {tr : Trace}
    (hx : Calls (·.launches = false) x) (h : Yields (x >>= fun _ => Sys.done b) tr c) :
    c = b ∧ tr.spawns = [] ∧ tr.waits = [] ∧ tr.failed = false := by
  obtain ⟨tr₁, a, tr₂, rfl, h₁, h₂⟩ := yields_bind_iff.mp h
  obtain ⟨rfl, rfl⟩ := yields_done_iff.mp h₂
  simpa using hx.quiet h₁

end Sys

@[simp] theorem Except.isOk_ok {ε α : Type} (a : α) : (Except.ok a : Except ε α).isOk = true :=
  rfl

@[simp] theorem Except.isOk_error {ε α : Type} (e : ε) :
    (Except.error e : Except ε α).isOk = false :=
  rfl

/-- The search for a program asks only whether paths are executable. -/
theorem Resolve.calls_firstExecutable {S : Call → Prop} {f : String → Sys Bool}
    (hf : ∀ p, Calls S (f p)) (ps : List String) : Calls S (Resolve.firstExecutable f ps) := by
  induction ps with
  | nil => exact Calls.pure _
  | cons p ps ih =>
    unfold Resolve.firstExecutable
    refine Calls.bind (hf p) fun b => ?_
    cases b
    · exact ih
    · exact Calls.pure _

theorem Resolve.calls_program {S : Call → Prop} {f : String → Sys Bool}
    (hf : ∀ p, Calls S (f p)) (name : String) (auxDir : Option String) (pathVar : String) :
    Calls S (Resolve.program f name auxDir pathVar) := by
  have hpath : Calls S (Resolve.inPath f name pathVar >>= fun found => pure (found.getD name)) :=
    Calls.bind (calls_firstExecutable hf _) fun _ => Calls.pure _
  unfold Resolve.program
  split
  · exact Calls.pure _
  · split
    · refine Calls.bind (hf _) fun b => ?_
      split
      · exact Calls.pure _
      · exact hpath
    · exact hpath

namespace Launch

/-- The status of a stage whose program did not start: 127 when it was not found, else 126. -/
def failureStatus (e : IoError) : Int32 :=
  if e.isNotFound then 127 else 126

/-- The stage that a start reply leaves, when it does not abandon the line. -/
def startedOf : Except IoError Pid → Started
  | .ok pid => .spawned pid
  | .error e => .failed (failureStatus e)

/-- The status of the last of `stages`, read from the waits of a run: for a started stage, what
the wait for its pid reported (the exit code, or 128 plus the signal for a kill or a stop); for a
stage that did not start, its own status. -/
def StatusOfLast (stages : List Started) (waits : List (Pid × Except Errno WaitResult))
    (s : Int32) : Prop :=
  match stages.getLast? with
  | some (.failed c) => s = c
  | some (.spawned pid) => ∃ w, waits.getLast? = some (pid, .ok w) ∧ s = match w with
    | .exited code => code
    | .signaled sig => 128 + sig
    | .stopped sig => 128 + sig
  | none => False

/-- `WaitResult.status` spelled out as `StatusOfLast` reads it. -/
theorem waitStatus_eq_cases (w : WaitResult) : w.status = match w with
    | .exited code => code
    | .signaled sig => 128 + sig
    | .stopped sig => 128 + sig := by
  cases w <;> rfl

theorem statusOfLast_cons_stages (x : Started) {rest : List Started} (hrest : rest ≠ [])
    (waits : List (Pid × Except Errno WaitResult)) (s : Int32) :
    StatusOfLast (x :: rest) waits s ↔ StatusOfLast rest waits s := by
  rw [StatusOfLast, StatusOfLast, List.getLast?_cons, List.getLast?_eq_some_getLast hrest]
  rfl

/-- Waits made before the last one do not change what the last one says. -/
theorem StatusOfLast.cons_waits {stages : List Started}
    {waits : List (Pid × Except Errno WaitResult)} {s : Int32} (h : StatusOfLast stages waits s)
    (x : Pid × Except Errno WaitResult) :
    StatusOfLast stages (x :: waits) s := by
  unfold StatusOfLast at h ⊢
  split at h
  case h_1 => exact h
  case h_2 =>
    obtain ⟨w, hw, hs⟩ := h
    exact ⟨w, by rw [List.getLast?_cons, hw]; rfl, hs⟩
  case h_3 => exact h.elim

theorem calls_closeAll (hs : List (Option Handle)) : Calls (·.launches = false) (closeAll hs) := by
  induction hs with
  | nil => exact Calls.pure _
  | cons h hs ih =>
    cases h with
    | none => exact ih
    | some h => exact Calls.bind (Calls.ask rfl) fun _ => ih

theorem calls_locate (sh : Shell) (name : String) : Calls (·.launches = false) (locate sh name) :=
  Calls.bind (Calls.ask rfl) fun _ => Resolve.calls_program (fun _ => Calls.ask (by rfl)) _ _ _

/-- Opening the redirections fails exactly on a refused open, and starts nothing. -/
theorem openRedirects_spec {p : Pipeline} {tr : Trace}
    {r : Except LaunchError (Option Handle × Option Handle)} (h : Yields (openRedirects p) tr r) :
    tr.spawns = [] ∧ tr.waits = [] ∧ tr.failed = !r.isOk := by
  unfold openRedirects at h
  rcases p with ⟨first, rest, _ | path, _ | ⟨target, append⟩, bg⟩ <;>
    simp only [Sys.pure_eq_done, Sys.done_bind, yields_ask_bind_iff] at h
  case none.none =>
    obtain ⟨rfl, rfl⟩ := yields_done_iff.mp h
    exact ⟨rfl, rfl, rfl⟩
  case none.some =>
    obtain ⟨rep, tr', rfl, h⟩ := h
    rcases rep with e | fd <;> simp only at h
    · obtain ⟨rfl, hs, hw, hf⟩ := (calls_closeAll _).quiet_bind_done h
      simp [Exchange.spawn?, Exchange.wait?, Exchange.fails, hs, hw, hf]
    · obtain ⟨rfl, rfl⟩ := yields_done_iff.mp h
      exact ⟨rfl, rfl, rfl⟩
  case some.none =>
    obtain ⟨rep, tr', rfl, h⟩ := h
    rcases rep with e | fd <;> simp only at h <;>
      obtain ⟨rfl, rfl⟩ := yields_done_iff.mp h <;> exact ⟨rfl, rfl, rfl⟩
  case some.some =>
    obtain ⟨rep, tr', rfl, h⟩ := h
    rcases rep with e | fd <;> simp only [yields_ask_bind_iff] at h
    · obtain ⟨rfl, rfl⟩ := yields_done_iff.mp h
      exact ⟨rfl, rfl, rfl⟩
    · obtain ⟨rep, tr'', rfl, h⟩ := h
      rcases rep with e | fd' <;> simp only at h
      · obtain ⟨rfl, hs, hw, hf⟩ := (calls_closeAll _).quiet_bind_done h
        simp [Exchange.spawn?, Exchange.wait?, Exchange.fails, hs, hw, hf]
      · obtain ⟨rfl, rfl⟩ := yields_done_iff.mp h
        exact ⟨rfl, rfl, rfl⟩

/-- Starting a stage makes one start request, for that stage; a refusal for lack of processes or
memory abandons the line, any other refusal leaves the stage with 127 or 126. -/
theorem spawnStage_spec {sh : Shell} {stage : Stage} {i o : Stdio} {l : Option Pid} {tr : Trace}
    {r : Except LaunchError (Started × Shell)} (h : Yields (spawnStage sh stage i o l) tr r) :
    tr.waits = [] ∧ tr.failed = !r.isOk ∧
      ∃ req rep, tr.spawns = [(req, rep)] ∧ req.stage = stage ∧
        ∀ s sh', r = .ok (s, sh') → s = startedOf rep := by
  unfold spawnStage at h
  rw [yields_bind_iff] at h
  obtain ⟨tr₁, program, tr₂, rfl, hloc, hspawn⟩ := h
  obtain ⟨hs₁, hw₁, hf₁⟩ := (calls_locate sh stage.program).quiet hloc
  simp only [yields_ask_bind_iff] at hspawn
  obtain ⟨rep, tr₃, rfl, hrep⟩ := hspawn
  rcases rep with e | pid
  case ok =>
    obtain ⟨rfl, rfl⟩ := yields_pure_iff.mp hrep
    exact ⟨by simp [hw₁, Exchange.wait?], by simp [hf₁, Exchange.fails],
      ⟨program, stage.program, stage.args, i, o, l⟩, .ok pid,
      by simp [hs₁, Exchange.spawn?], rfl, by simp [startedOf]⟩
  case error =>
    -- the kind of refusal decides between abandoning the line and a stage with 127 or 126
    have hfails : ∀ req, Exchange.fails ⟨.spawn req, .error e⟩ = isExhaustion e :=
      fun _ => rfl
    simp only at hrep
    split at hrep
    case isTrue hx =>
      obtain ⟨rfl, rfl⟩ := yields_pure_iff.mp hrep
      exact ⟨by simp [hw₁, Exchange.wait?], by simp [hf₁, hfails, hx],
        ⟨program, stage.program, stage.args, i, o, l⟩, .error e,
        by simp [hs₁, Exchange.spawn?], rfl,
        by simp⟩
    case isFalse hx =>
      split at hrep
      all_goals
        obtain ⟨rfl, rfl⟩ := yields_pure_iff.mp hrep
        refine ⟨by simp [hw₁, Exchange.wait?], by simp_all,
          ⟨program, stage.program, stage.args, i, o, l⟩, .error e,
          by simp [hs₁, Exchange.spawn?], rfl, ?_⟩
        simp_all [startedOf, failureStatus, statusNotFound, statusNotExecutable]

/-- Starting the stages of a pipeline starts each stage once, in order, and fails exactly on a
failing answer: a pipe not made or a start refused for lack of resources. -/
theorem spawnRest_spec {sh : Shell} {up out : Option Handle} {l : Option Pid} {stages : List Stage}
    {tr : Trace} {r : Except LaunchError (List Started × Shell)}
    (h : Yields (spawnRest sh up out l stages) tr r) :
    tr.waits = [] ∧ tr.failed = !r.isOk ∧ ∀ ss sh', r = .ok (ss, sh') →
      tr.spawns.map (·.1.stage) = stages ∧ ss = tr.spawns.map (startedOf ·.2) := by
  -- induction on the stages, the last one apart, as `spawnRest` recurses
  induction stages generalizing sh up l tr r with
  | nil =>
    rw [spawnRest.eq_1] at h
    obtain ⟨rfl, hs, hw, hf⟩ := (calls_closeAll _).quiet_bind_done h
    refine ⟨hw, by simp [hf], ?_⟩
    rintro ss sh' ⟨⟩
    simp [hs]
  | cons stage rest ih =>
    cases rest with
    | nil =>
      rw [spawnRest.eq_2, yields_bind_iff] at h
      obtain ⟨tr₁, r₁, tr₂, rfl, h₁, h₂⟩ := h
      obtain ⟨hw, hf, req, rep, hs, hstage, hst⟩ := spawnStage_spec h₁
      rcases r₁ with e | ⟨s, sh₁⟩ <;> simp only at h₂ <;>
        obtain ⟨rfl, rfl⟩ := yields_pure_iff.mp h₂
      · simpa using ⟨hw, hf⟩
      · refine ⟨by simpa using hw, by simpa using hf, ?_⟩
        rintro ss sh' ⟨⟩
        simp [hs, hstage, hst s sh₁ rfl]
    | cons next rest =>
      rw [spawnRest.eq_3 _ _ _ _ _ _ (List.cons_ne_nil _ _), yields_ask_bind_iff] at h
      obtain ⟨pr, tr', rfl, h⟩ := h
      rcases pr with e | ⟨rd, wr⟩
      · simp only at h
        obtain ⟨rfl, hs, hw, hf⟩ := (calls_closeAll _).quiet_bind_done h
        simp [Exchange.wait?, Exchange.fails, hw, hf]
      simp only [yields_bind_iff] at h
      obtain ⟨tr₁, r₁, tr₂, rfl, h₁, h₂⟩ := h
      obtain ⟨hw₁, hf₁, req, rep, hs₁, hstage, hst⟩ := spawnStage_spec h₁
      rcases r₁ with e | ⟨s, sh₁⟩
      · simp only at h₂
        obtain ⟨rfl, hs, hw, hf⟩ := (calls_closeAll _).quiet_bind_done h₂
        simp_all [Exchange.wait?, Exchange.fails]
      simp only [yields_bind_iff] at h₂
      obtain ⟨tr₃, r₃, tr₄, rfl, h₃, h₄⟩ := h₂
      obtain ⟨hw₃, hf₃, hrest⟩ := ih h₃
      rcases r₃ with e | ⟨ss, sh₃⟩ <;> simp only at h₄ <;>
        obtain ⟨rfl, rfl⟩ := yields_pure_iff.mp h₄
      · simp_all [Exchange.wait?, Exchange.fails]
      · refine ⟨by simp_all [Exchange.wait?], by simp_all [Exchange.fails], ?_⟩
        rintro ss' sh' ⟨⟩
        obtain ⟨hstages, hss⟩ := hrest ss sh₃ rfl
        simp [Exchange.spawn?, hs₁, hstage, hst s sh₁ rfl, hstages, hss]

/-- Waiting for the stages in order: a failed wait abandons the line; otherwise the status is the
last stage's. -/
theorem waitStages_spec {ss : List Started} {st : Int32} {ms : List Member} {b : Bool}
    {tr : Trace} {r : Except LaunchError (Int32 × List Member × Bool)}
    (h : Yields (waitStages ss st ms b) tr r) :
    tr.spawns = [] ∧ tr.failed = !r.isOk ∧ ∀ st' ms' b', r = .ok (st', ms', b') →
      (ss = [] → st' = st) ∧ (ss ≠ [] → StatusOfLast ss tr.waits st') := by
  -- induction on the stages; the status carried along is that of the stage last passed
  induction ss generalizing st ms b tr r with
  | nil =>
    rw [waitStages.eq_1] at h
    obtain ⟨rfl, rfl⟩ := yields_pure_iff.mp h
    refine ⟨rfl, rfl, ?_⟩
    rintro st' ms' b' ⟨⟩
    exact ⟨fun _ => rfl, fun h => absurd rfl h⟩
  | cons stage rest ih =>
    cases stage with
    | failed c =>
      rw [waitStages.eq_2] at h
      obtain ⟨hs, hf, hst⟩ := ih h
      refine ⟨hs, hf, fun st' ms' b' hr =>
        ⟨fun h => absurd h (List.cons_ne_nil _ _), fun _ => ?_⟩⟩
      obtain ⟨hnil, hlast⟩ := hst st' ms' b' hr
      by_cases hrest : rest = []
      · subst hrest
        exact hnil rfl
      · rw [statusOfLast_cons_stages _ hrest]
        exact hlast hrest
    | spawned pid =>
      rw [waitStages.eq_3, yields_ask_bind_iff] at h
      obtain ⟨rep, tr', rfl, h⟩ := h
      rcases rep with e | w
      · obtain ⟨rfl, rfl⟩ := yields_pure_iff.mp h
        simp [Exchange.spawn?, Exchange.fails]
      simp only at h
      by_cases hrest : rest = []
      · subst hrest
        rw [waitStages.eq_1] at h
        obtain ⟨rfl, rfl⟩ := yields_pure_iff.mp h
        refine ⟨by simp [Exchange.spawn?], by simp [Exchange.fails], ?_⟩
        rintro st' ms' b' ⟨⟩
        exact ⟨fun h => absurd h (List.cons_ne_nil _ _), fun _ => ⟨w, by simp [Exchange.wait?],
          waitStatus_eq_cases w⟩⟩
      obtain ⟨hs, hf, hst⟩ := ih h
      refine ⟨by simpa [Exchange.spawn?] using hs, by simpa [Exchange.fails] using hf,
        fun st' ms' b' hr => ⟨fun h => absurd h (List.cons_ne_nil _ _), fun _ => ?_⟩⟩
      rw [statusOfLast_cons_stages _ hrest]
      simpa [Exchange.wait?] using ((hst st' ms' b' hr).2 hrest).cons_waits (pid, .ok w)

theorem leader?_eq_none_iff {ss : List Started} :
    leader? ss = none ↔ ∀ pid, .spawned pid ∉ ss := by
  induction ss with
  | nil => simp [leader?]
  | cons x ss ih =>
    cases x with
    | spawned pid =>
      simp only [leader?, reduceCtorEq, false_iff, not_forall, not_not]
      exact ⟨pid, List.mem_cons_self⟩
    | failed c => simp [leader?, ih]

/-- With no stage started, the status of the line is that of its last stage. -/
theorem statusOfLast_lastFailure {ss : List Started} (hne : ss ≠ []) (hlead : leader? ss = none)
    (waits : List (Pid × Except Errno WaitResult)) : StatusOfLast ss waits (lastFailure ss) := by
  obtain ⟨x, hx⟩ : ∃ x, ss.getLast? = some x :=
    Option.ne_none_iff_exists'.mp (mt List.getLast?_eq_none_iff.mp hne)
  cases x with
  | spawned pid => exact absurd (List.mem_of_getLast? hx) (leader?_eq_none_iff.mp hlead pid)
  | failed c => simp [StatusOfLast, lastFailure, hx]

/-- Waiting for a foreground line: a failed wait abandons it; otherwise its status is the last
stage's, whether the line completed or stopped. -/
theorem waitForeground_spec {sh : Shell} {ss : List Started} {cmd : String} {isPipeline : Bool}
    {tr : Trace} {r : Except LaunchError (LaunchOutcome × Shell)} (hne : ss ≠ [])
    (h : Yields (waitForeground sh ss cmd isPipeline) tr r) :
    tr.spawns = [] ∧ tr.failed = !r.isOk ∧
      ∀ o sh', r = .ok (o, sh') → StatusOfLast ss tr.waits o.status := by
  unfold waitForeground at h
  split at h
  case h_1 hlead =>
    obtain ⟨rfl, rfl⟩ := yields_pure_iff.mp h
    refine ⟨rfl, rfl, ?_⟩
    rintro o sh' ⟨⟩
    exact statusOfLast_lastFailure hne hlead _
  case h_2 pgid hlead =>
    rw [yields_bind_iff] at h
    obtain ⟨tr₁, r₁, tr₂, rfl, h₁, h₂⟩ := h
    obtain ⟨hs₁, hf₁, hst⟩ := waitStages_spec h₁
    rcases r₁ with e | ⟨status, members, stopped⟩
    · obtain ⟨rfl, rfl⟩ := yields_pure_iff.mp h₂
      simp [hs₁, hf₁]
    have hlast := (hst status members stopped rfl).2 hne
    have hend : tr₂.spawns = [] ∧ tr₂.waits = [] ∧ tr₂.failed = false ∧
        ∃ o sh', r = .ok (o, sh') ∧ o.status = status := by
      simp only at h₂
      split at h₂
      · obtain ⟨rfl, rfl⟩ := yields_pure_iff.mp h₂
        exact ⟨rfl, rfl, rfl, _, _, rfl, rfl⟩
      split at h₂
      · obtain ⟨rfl, rfl⟩ := yields_pure_iff.mp h₂
        exact ⟨rfl, rfl, rfl, _, _, rfl, rfl⟩
      · obtain ⟨rfl, hs, hw, hf⟩ := (Calls.ask (by rfl)).quiet_bind_done h₂
        exact ⟨hs, hw, hf, _, _, rfl, rfl⟩
    obtain ⟨hs₂, hw₂, hf₂, o, sh', rfl, ho⟩ := hend
    refine ⟨by simp [hs₁, hs₂], by simpa [hf₂] using hf₁, ?_⟩
    rintro o' sh'' ⟨⟩
    simpa [hw₂, ho] using hlast

/-- A background line reports 0 once a stage started, else the status of its last stage. -/
theorem registerBackground_status (sh : Shell) (ss : List Started) (cmd : String)
    (isPipeline : Bool) :
    (registerBackground sh ss cmd isPipeline).1.status =
      if leader? ss = none then lastFailure ss else 0 := by
  unfold registerBackground
  split
  case h_1 hlead => simp [hlead, LaunchOutcome.status]
  case h_2 pgid hlead =>
    simp only [hlead, reduceCtorEq, if_false]
    split <;> rfl

/-- The status that a run which launched `p` without failing gives the line: the run started the
stages of `p` in order, and the status is the last stage's, or in the background 0 once a stage
started. -/
def LaunchStatus (p : Pipeline) (tr : Trace) (s : Int32) : Prop :=
  tr.spawns.map (·.1.stage) = p.stages ∧
    let ss := tr.spawns.map (startedOf ·.2)
    (p.background = true → ((∃ pid, .spawned pid ∈ ss) → s = 0) ∧
      ((∀ pid, .spawned pid ∉ ss) → StatusOfLast ss [] s)) ∧
    (p.background = false → StatusOfLast ss tr.waits s)

/-- Only the starts and the waits of a run decide the status. -/
theorem LaunchStatus.congr {p : Pipeline} {tr tr' : Trace} {s : Int32}
    (hs : tr'.spawns = tr.spawns) (hw : tr'.waits = tr.waits) :
    LaunchStatus p tr' s ↔ LaunchStatus p tr s := by
  rw [LaunchStatus, LaunchStatus, hs, hw]

/-- A launch fails exactly when its run has a failing answer; otherwise its outcome's status is
the one its run gives the line. -/
theorem launch_spec {sh : Shell} {p : Pipeline} {cmd : String} {tr : Trace}
    {r : Except LaunchError (LaunchOutcome × Shell)} (h : Yields (sh.launch p cmd) tr r) :
    tr.failed = !r.isOk ∧ ∀ o sh', r = .ok (o, sh') → LaunchStatus p tr o.status := by
  unfold Shell.launch at h
  rw [yields_bind_iff] at h
  obtain ⟨tr₁, r₁, tr₂, rfl, h₁, h₂⟩ := h
  obtain ⟨hs₁, hw₁, hf₁⟩ := openRedirects_spec h₁
  rcases r₁ with e | ⟨input, output⟩
  · obtain ⟨rfl, rfl⟩ := yields_pure_iff.mp h₂
    simpa using hf₁
  simp -zeta only at h₂
  extract_lets finish at h₂
  obtain ⟨tr₃, rs, tr₄, rfl, hw₃, hf₃, hss, h₄⟩ : ∃ (tr₃ : Trace)
      (rs : Except LaunchError (List Started × Shell)) (tr₄ : Trace), tr₂ = tr₃ ++ tr₄ ∧
      tr₃.waits = [] ∧ tr₃.failed = !rs.isOk ∧
      (∀ ss sh', rs = .ok (ss, sh') →
        tr₃.spawns.map (·.1.stage) = p.stages ∧ ss = tr₃.spawns.map (startedOf ·.2)) ∧
      Yields (finish rs) tr₄ r := by
    split at h₂
    case h_1 hrest =>
      rw [yields_bind_iff] at h₂
      obtain ⟨tr₃, r₃, tr₄, rfl, h₃, h₄⟩ := h₂
      obtain ⟨hw₃, hf₃, req, rep, hs₃, hstage, hst⟩ := spawnStage_spec h₃
      rcases r₃ with e | ⟨s, sh₁⟩
      · exact ⟨tr₃, .error e, tr₄, rfl, hw₃, hf₃, by simp, by simpa using h₄⟩
      · refine ⟨tr₃, .ok ([s], sh₁), tr₄, rfl, hw₃, by simpa using hf₃, ?_,
          by simpa using h₄⟩
        rintro ss sh' ⟨⟩
        simp [hs₃, hstage, hst s sh₁ rfl, Pipeline.stages, hrest]
    case h_2 =>
      rw [yields_bind_iff] at h₂
      obtain ⟨tr₃, rs, tr₄, rfl, h₃, h₄⟩ := h₂
      obtain ⟨hw₃, hf₃, hss⟩ := spawnRest_spec h₃
      exact ⟨tr₃, rs, tr₄, rfl, hw₃, hf₃, hss, h₄⟩
  simp only [finish] at h₄
  rcases rs with e | ⟨ss, sh₁⟩
  · obtain ⟨rfl, rfl⟩ := yields_pure_iff.mp h₄
    simpa [hf₁] using hf₃
  obtain ⟨hstages, rfl⟩ := hss ss sh₁ rfl
  have hne : tr₃.spawns.map (startedOf ·.2) ≠ [] := by
    intro hnil
    rw [List.map_eq_nil_iff] at hnil
    simp [hnil, Pipeline.stages] at hstages
  simp only at h₄
  split at h₄
  case isTrue hbg =>
    obtain ⟨rfl, rfl⟩ := yields_pure_iff.mp h₄
    refine ⟨by simp [hf₁, hf₃], ?_⟩
    intro o sh' hr
    have ho := congrArg Prod.fst (Except.ok.inj hr)
    subst ho
    simp only [LaunchStatus, Trace.spawns_append, hs₁, List.nil_append, List.append_nil]
    refine ⟨hstages, fun _ => ⟨fun hstarted => ?_, fun hnone => ?_⟩,
      fun h => absurd hbg (by simp [h])⟩
    · obtain ⟨pid, hpid⟩ := hstarted
      rw [registerBackground_status, if_neg]
      exact fun hl => leader?_eq_none_iff.mp hl pid hpid
    · rw [registerBackground_status, if_pos (leader?_eq_none_iff.mpr hnone)]
      exact statusOfLast_lastFailure hne (leader?_eq_none_iff.mpr hnone) []
  case isFalse hbg =>
    obtain ⟨hs₄, hf₄, hst⟩ := waitForeground_spec hne h₄
    refine ⟨by simp [hf₁, hf₃, hf₄], ?_⟩
    rintro o sh' rfl
    simp only [LaunchStatus, Trace.spawns_append, Trace.waits_append, hs₁, hs₄, hw₁, hw₃,
      List.nil_append, List.append_nil]
    exact ⟨hstages, fun h => absurd h hbg, fun _ => hst o sh' rfl⟩

end Launch

end JobControl
