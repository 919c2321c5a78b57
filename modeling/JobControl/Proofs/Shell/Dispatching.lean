import JobControl.Proofs.Shell.Resuming
import JobControl.Proofs.Text.Decimal

/-!
# Builtin lines

A line whose first word names a builtin runs that builtin, with the other words of the first
stage, and nothing else: the line's other stages, its redirections and its `&` are ignored.

* `Call.prepares`: the calls by which a launch prepares a pipeline: opening a file, making a
  pipe, starting a program. No builtin makes one (`Builtin.calls_run`), and neither does a
  collection of child changes.
* `Builtin.lookup?_eq_some_iff`: a word names the builtin of that name.
* `Shell.dispatch_of_builtin`, `Shell.dispatch_of_launch`: what running a parsed line comes to.
* `Builtin.exitCode_nil`, `exitCode_of_isInt32`, `exitCode_of_not_int32`: `exit` asks for 0
  without an argument, for the number a signed 32-bit numeral denotes, and otherwise for 2 with a
  diagnostic.
* `execute_runs_only_the_builtin`: every run of a builtin line is a collection, the builtin and a
  collection, and prepares nothing; every run of another parsed line launches it.
-/

namespace JobControl

open Sys

/-- The calls by which a launch prepares its pipeline: opening a file (which may create or
truncate it), making a pipe, starting a program. -/
def Sys.Call.prepares : Call → Bool
  | .openRead _ | .openWrite _ _ | .pipe | .spawn _ => true
  | _ => false

theorem Sys.Call.prepares_eq_false_of_launches {c : Call} (h : c.launches = false) :
    c.prepares = false := by
  cases c <;> simp_all [Call.launches, Call.prepares]

/-! ## What the builtins ask of the system -/

@[simp] theorem Shell.notifyAll_err (sh : Shell) (ns : List Notice) :
    (sh.notifyAll ns).err = sh.err := by
  rw [Shell.notifyAll_eq]

/-- A collection of child changes writes no diagnostic. -/
theorem Shell.reap_err {sh sh' : Shell} {tr : Trace} (h : Yields sh.reap tr sh') :
    sh'.err = sh.err := by
  unfold Shell.reap at h
  obtain ⟨tr₁, ⟨t, ns⟩, tr₂, rfl, -, h₂⟩ := yields_bind_iff.mp h
  obtain ⟨rfl, rfl⟩ := yields_pure_iff.mp h₂
  simp

theorem Shell.calls_reap (sh : Shell) : Calls (·.prepares = false) sh.reap :=
  Calls.bind ((Table.calls_drain _ _).mono fun _ => Call.prepares_eq_false_of_launches)
    fun _ => Calls.pure _

namespace Builtin

theorem calls_changeDir (args : List String) (sh : Shell) :
    Calls (·.prepares = false) (changeDir args sh) := by
  unfold changeDir
  extract_lets arg finish
  have hfinish : ∀ target?, Calls (·.prepares = false) (finish target?) := by
    intro target?
    simp only [finish]
    split
    · exact Calls.pure _
    · refine Calls.bind (Calls.ask rfl) fun _ => Calls.bind (Calls.ask rfl) fun r => ?_
      split <;> exact Calls.pure _
  clear_value finish arg
  split
  · exact hfinish _
  · exact hfinish _
  · exact Calls.bind (Calls.ask rfl) fun _ => hfinish _

theorem calls_waitMembers (pgid : Pid) (pids : List Pid) (s : Int32) (t : Table)
    (ns : List Notice) : Calls (·.prepares = false) (waitMembers pgid pids s t ns) := by
  induction pids generalizing s t ns with
  | nil => exact Calls.pure _
  | cons q qs ih =>
    rw [waitMembers_cons]
    exact Calls.bind (Calls.ask rfl) fun _ => ih _ _ _

theorem calls_foreground (args : List String) (sh : Shell) :
    Calls (·.prepares = false) (foreground args sh) := by
  unfold foreground
  refine Calls.bind (Shell.calls_reap sh) fun sh => ?_
  split
  · exact Calls.pure _
  · refine Calls.bind (Calls.ask rfl) fun r => ?_
    split
    · exact Calls.pure _
    · exact Calls.pure _
    · exact Calls.bind (calls_waitMembers _ _ _ _ _) fun _ => Calls.pure _

theorem calls_background (args : List String) (sh : Shell) :
    Calls (·.prepares = false) (background args sh) := by
  unfold background
  refine Calls.bind (Shell.calls_reap sh) fun sh => ?_
  split
  · exact Calls.pure _
  · split
    · exact Calls.pure _
    · exact Calls.bind (Calls.ask rfl) fun r => by split <;> exact Calls.pure _

/-- No builtin opens a file, makes a pipe or starts a program. -/
theorem calls_run (b : Builtin) (args : List String) (sh : Shell) :
    Calls (·.prepares = false) (b.run args sh) := by
  cases b with
  | cd => exact calls_changeDir args sh
  | exit => exact Calls.pure _
  | jobs => exact Calls.bind (Shell.calls_reap sh) fun _ => Calls.pure _
  | fg => exact calls_foreground args sh
  | bg => exact calls_background args sh

/-! ## Which builtin a word names -/

theorem lookup?_name (b : Builtin) : lookup? b.name = some b := by
  cases b <;> rfl

theorem lookup?_eq_some_iff {w : String} {b : Builtin} : lookup? w = some b ↔ b.name = w := by
  constructor
  · intro h
    simpa using List.find?_some h
  · rintro rfl
    exact lookup?_name b

theorem exists_name_iff {w : String} :
    (∃ b : Builtin, b.name = w) ↔ w ∈ ["cd", "exit", "jobs", "fg", "bg"] := by
  constructor
  · rintro ⟨b, rfl⟩
    cases b <;> simp [name]
  · intro h
    simp only [List.mem_cons, List.not_mem_nil, or_false] at h
    rcases h with rfl | rfl | rfl | rfl | rfl
    exacts [⟨.cd, rfl⟩, ⟨.exit, rfl⟩, ⟨.jobs, rfl⟩, ⟨.fg, rfl⟩, ⟨.bg, rfl⟩]

theorem lookup?_eq_none_iff {w : String} :
    lookup? w = none ↔ w ∉ ["cd", "exit", "jobs", "fg", "bg"] := by
  rw [← exists_name_iff, Option.eq_none_iff_forall_ne_some, not_exists]
  simp only [ne_eq, lookup?_eq_some_iff]

/-! ## `exit` -/

theorem exitCode_nil (sh : Shell) : exitCode [] sh = (.exit 0, sh) :=
  rfl

theorem exitCode_of_isInt32 {a : String} {c : Int32} (h : Text.IsInt32 a.toList c.toInt)
    (rest : List String) (sh : Shell) : exitCode (a :: rest) sh = (.exit c, sh) := by
  simp [exitCode, Text.readInt32?_eq_some_iff.mpr h]

theorem exitCode_of_not_int32 {a : String} (h : ∀ i, ¬ Text.IsInt32 a.toList i)
    (rest : List String) (sh : Shell) :
    exitCode (a :: rest) sh = (.exit 2, sh.complain "exit" (a ++ ": numeric argument required")) := by
  cases hr : Text.readInt32? a with
  | none => simp [exitCode, hr]
  | some c => exact absurd (Text.readInt32?_eq_some_iff.mp hr) (h c.toInt)

end Builtin

/-! ## Running a parsed line -/

/-- What the shell's caller is asked after a builtin: to go on, or to exit with its code. -/
def BuiltinOutcome.line : BuiltinOutcome → LineOutcome
  | .proceed _ => .proceed
  | .exit code => .exit code

namespace Shell

/-- The shell after a builtin: the status it returns recorded, unless it asks to exit. -/
def afterBuiltin (sh : Shell) : BuiltinOutcome → Shell
  | .proceed status => { sh with lastStatus := status }
  | .exit _ => sh

/-- The shell after a launch: the launch's status recorded, or 1 and the diagnostic of a failed
launch. -/
def afterLaunch (sh : Shell) : Except LaunchError (LaunchOutcome × Shell) → Shell
  | .ok r => { r.2 with lastStatus := r.1.status }
  | .error e => { sh.report e.message with lastStatus := 1 }

theorem dispatch_of_builtin {sh : Shell} {line : String} {p : Pipeline} {b : Builtin}
    (hp : Pipeline.parse line sh.config.maxStages = .ok (some p))
    (hb : Builtin.lookup? p.program = some b) :
    sh.dispatch line = b.run p.first.args sh >>= fun r => pure (r.1.line, r.2.afterBuiltin r.1) := by
  simp only [dispatch, hp, hb]
  congr 1
  funext r
  obtain ⟨bo, sh'⟩ := r
  cases bo <;> rfl

theorem dispatch_of_launch {sh : Shell} {line : String} {p : Pipeline}
    (hp : Pipeline.parse line sh.config.maxStages = .ok (some p))
    (hb : Builtin.lookup? p.program = none) :
    sh.dispatch line =
      sh.launch p (Text.trim line) >>= fun r => pure (.proceed, sh.afterLaunch r) := by
  simp only [dispatch, hp, hb]
  congr 1
  funext r
  cases r <;> rfl

/-- A run of executing a line that runs the builtin `b` on `args`: a collection, the builtin on
the shell it leaves, and a collection on the shell the builtin leaves. -/
def RunsBuiltin (sh : Shell) (b : Builtin) (args : List String) (tr : Trace) (o : LineOutcome)
    (sh' : Shell) : Prop :=
  ∃ tr₁ sh₁ tr₂ bo sh₂ tr₃, tr = tr₁ ++ tr₂ ++ tr₃ ∧ Yields sh.reap tr₁ sh₁ ∧
    Yields (b.run args sh₁) tr₂ (bo, sh₂) ∧ o = bo.line ∧ Yields (sh₂.afterBuiltin bo).reap tr₃ sh'

/-- A run of executing a line that launches `p` as `command`: a collection, the launch, and a
collection. -/
def RunsLaunch (sh : Shell) (p : Pipeline) (command : String) (tr : Trace) (o : LineOutcome)
    (sh' : Shell) : Prop :=
  ∃ tr₁ sh₁ tr₂ r tr₃, tr = tr₁ ++ tr₂ ++ tr₃ ∧ Yields sh.reap tr₁ sh₁ ∧
    Yields (sh₁.launch p command) tr₂ r ∧ o = .proceed ∧ Yields (sh₁.afterLaunch r).reap tr₃ sh'

/-- Executing a line is a collection, the line, and a collection. -/
theorem yields_execute {sh : Shell} {line : String} {tr : Trace} {o : LineOutcome} {sh' : Shell}
    (h : Yields (sh.execute line) tr (o, sh')) :
    ∃ tr₁ sh₁ tr₂ sh₂ tr₃, tr = tr₁ ++ tr₂ ++ tr₃ ∧ Yields sh.reap tr₁ sh₁ ∧
      sh₁.config = sh.config ∧ Yields (sh₁.dispatch line) tr₂ (o, sh₂) ∧ Yields sh₂.reap tr₃ sh' := by
  unfold execute at h
  obtain ⟨tr₁, sh₁, tr', rfl, h₁, h'⟩ := yields_bind_iff.mp h
  obtain ⟨tr₂, ⟨o₂, sh₂⟩, tr'', rfl, h₂, h''⟩ := yields_bind_iff.mp h'
  obtain ⟨tr₃, sh₃, tr₄, rfl, h₃, h₄⟩ := yields_bind_iff.mp h''
  obtain ⟨rfl, rfl, rfl⟩ := yields_pure_pair_iff.mp h₄
  exact ⟨tr₁, sh₁, tr₂, sh₂, tr₃, by simp, h₁, (reap_spec h₁).2.2.2.2, h₂, h₃⟩

theorem execute_of_builtin {sh : Shell} {line : String} {p : Pipeline} {b : Builtin}
    (hp : Pipeline.parse line sh.config.maxStages = .ok (some p))
    (hb : Builtin.lookup? p.program = some b) {tr : Trace} {o : LineOutcome} {sh' : Shell}
    (h : Yields (sh.execute line) tr (o, sh')) : sh.RunsBuiltin b p.first.args tr o sh' := by
  obtain ⟨tr₁, sh₁, tr₂, sh₂, tr₃, rfl, h₁, hcfg, h₂, h₃⟩ := yields_execute h
  rw [dispatch_of_builtin (hcfg ▸ hp) hb] at h₂
  obtain ⟨tr₂', ⟨bo, sh₂'⟩, tr₂'', rfl, h₂', h₂''⟩ := yields_bind_iff.mp h₂
  obtain ⟨rfl, rfl, rfl⟩ := yields_pure_pair_iff.mp h₂''
  exact ⟨tr₁, sh₁, tr₂', bo, sh₂', tr₃, by simp, h₁, h₂', rfl, h₃⟩

theorem execute_of_launch {sh : Shell} {line : String} {p : Pipeline}
    (hp : Pipeline.parse line sh.config.maxStages = .ok (some p))
    (hb : Builtin.lookup? p.program = none) {tr : Trace} {o : LineOutcome} {sh' : Shell}
    (h : Yields (sh.execute line) tr (o, sh')) : sh.RunsLaunch p (Text.trim line) tr o sh' := by
  obtain ⟨tr₁, sh₁, tr₂, sh₂, tr₃, rfl, h₁, hcfg, h₂, h₃⟩ := yields_execute h
  rw [dispatch_of_launch (hcfg ▸ hp) hb] at h₂
  obtain ⟨tr₂', r, tr₂'', rfl, h₂', h₂''⟩ := yields_bind_iff.mp h₂
  obtain ⟨rfl, rfl, rfl⟩ := yields_pure_pair_iff.mp h₂''
  exact ⟨tr₁, sh₁, tr₂', r, tr₃, by simp, h₁, h₂', rfl, h₃⟩

/-- A run of a builtin line opens no file, makes no pipe and starts no program. -/
theorem RunsBuiltin.prepares_nothing {sh sh' : Shell} {b : Builtin} {args : List String}
    {tr : Trace} {o : LineOutcome} (h : sh.RunsBuiltin b args tr o sh') :
    ∀ e ∈ tr, e.1.prepares = false := by
  obtain ⟨tr₁, sh₁, tr₂, bo, sh₂, tr₃, rfl, h₁, h₂, -, h₃⟩ := h
  intro e he
  simp only [List.mem_append] at he
  rcases he with (he | he) | he
  · exact (calls_reap sh).mem_trace h₁ e he
  · exact (b.calls_run args sh₁).mem_trace h₂ e he
  · exact (calls_reap _).mem_trace h₃ e he

/-- A run of `exit`: 0 without an argument, the number a signed 32-bit numeral denotes, and
otherwise 2, with the diagnostic on the error stream. -/
theorem RunsBuiltin.exit {sh sh' : Shell} {args : List String} {tr : Trace} {o : LineOutcome}
    (h : sh.RunsBuiltin .exit args tr o sh') :
    (args = [] → o = .exit 0) ∧
    (∀ a rest (c : Int32), args = a :: rest → Text.IsInt32 a.toList c.toInt → o = .exit c) ∧
    ∀ a rest, args = a :: rest → (∀ i, ¬ Text.IsInt32 a.toList i) →
      o = .exit 2 ∧ sh'.err = sh.err ++ "exit: " ++ a ++ ": numeric argument required\n" := by
  obtain ⟨tr₁, sh₁, tr₂, bo, sh₂, tr₃, rfl, h₁, h₂, rfl, h₃⟩ := h
  obtain ⟨-, hbo⟩ := yields_pure_iff.mp h₂
  refine ⟨fun hargs => ?_, fun a rest c hargs hc => ?_, fun a rest hargs hnot => ?_⟩
  · rw [hargs, Builtin.exitCode_nil] at hbo
    rw [(Prod.mk.inj hbo).1]
    rfl
  · rw [hargs, Builtin.exitCode_of_isInt32 hc] at hbo
    rw [(Prod.mk.inj hbo).1]
    rfl
  · rw [hargs, Builtin.exitCode_of_not_int32 hnot] at hbo
    obtain ⟨rfl, rfl⟩ := Prod.mk.inj hbo
    refine ⟨rfl, ?_⟩
    rw [reap_err h₃, afterBuiltin, complain, reap_err h₁]
    simp only [String.append_assoc]
    simp only [← String.append_assoc, String.reduceAppend]

theorem execute_runs_only_the_builtin (sh : Shell) (line : String) {p : Pipeline}
    (hp : Pipeline.parse line sh.config.maxStages = .ok (some p)) {tr : Trace} {o : LineOutcome}
    {sh' : Shell} (h : Yields (sh.execute line) tr (o, sh')) :
    (p.program ∈ ["cd", "exit", "jobs", "fg", "bg"] →
      (∀ e ∈ tr, e.1.prepares = false) ∧
        ∃ b : Builtin, b.name = p.program ∧ sh.RunsBuiltin b p.first.args tr o sh') ∧
    (p.program ∉ ["cd", "exit", "jobs", "fg", "bg"] → sh.RunsLaunch p (Text.trim line) tr o sh') ∧
    (p.program = "exit" →
      (p.first.args = [] → o = .exit 0) ∧
      (∀ a rest (c : Int32), p.first.args = a :: rest → Text.IsInt32 a.toList c.toInt →
        o = .exit c) ∧
      ∀ a rest, p.first.args = a :: rest → (∀ i, ¬ Text.IsInt32 a.toList i) →
        o = .exit 2 ∧ sh'.err = sh.err ++ "exit: " ++ a ++ ": numeric argument required\n") := by
  refine ⟨fun hw => ?_, fun hw => execute_of_launch hp (Builtin.lookup?_eq_none_iff.mpr hw) h,
    fun hexit => ?_⟩
  · obtain ⟨b, hb⟩ := Builtin.exists_name_iff.mpr hw
    have hrun := execute_of_builtin hp (Builtin.lookup?_eq_some_iff.mpr hb) h
    exact ⟨hrun.prepares_nothing, b, hb, hrun⟩
  · have hb : Builtin.lookup? p.program = some .exit := by
      rw [hexit]
      rfl
    exact (execute_of_builtin hp hb h).exit

/-- `exit 4 &` asks the shell to exit with 4: the `&` is ignored. -/
theorem exit_in_background_exits :
    let sh := Shell.start (Config.default ⟨[], none⟩) false false
    let run := (sh.execute "exit 4 &").runWith allSucceed
    Pipeline.parse "exit 4 &" sh.config.maxStages =
        .ok (some ⟨⟨"exit", ["4"]⟩, [], none, none, true⟩) ∧
      Yields (sh.execute "exit 4 &") run.1 run.2 ∧ run.2.1 = .exit 4 := by
  intro sh run
  have hp : Pipeline.parse "exit 4 &" sh.config.maxStages =
      .ok (some ⟨⟨"exit", ["4"]⟩, [], none, none, true⟩) := by
    with_unfolding_all rfl
  have hrun : Yields (sh.execute "exit 4 &") run.1 run.2 := (yields_runWith allSucceed _).1
  have h4 : Text.IsInt32 "4".toList (4 : Int32).toInt := Text.readInt32?_eq_some_iff.mp (by decide)
  exact ⟨hp, hrun, ((execute_runs_only_the_builtin sh _ hp hrun).2.2 rfl).2.1 "4" [] 4 rfl h4⟩

end Shell

end JobControl
