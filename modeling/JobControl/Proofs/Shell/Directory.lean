import JobControl.Proofs.Shell.Dispatching

/-!
# `cd` and the working directory

`cd` works on two directories: the system's working directory, which it reads with `getcwd` and
changes with `chdir`, and the one the shell remembers for `cd -`. The system is a parameter:
`WorkingDirs` says what `getcwd` reports in each directory and where a `chdir` that succeeds
leads, and `WorkingDirs.Walk d tr d'` says that the answers of a run `tr` are those of such a
system, taking its working directory from `d` to `d'`.

* `Builtin.cdTarget`: where `cd` goes: the remembered directory for `-`, the argument, or the home
  directory.
* `Builtin.CdLaw`: one `cd`, read off its run: a target that cannot be determined, or a `chdir`
  that fails, returns 1 and changes neither directory; a `chdir` that succeeds returns 0, enters
  the target and remembers what `getcwd` reported just before (none when it failed); `cd -`
  prints where it went.
* `changeDir_law`: every run of `cd` obeys the law, whatever the system.
* `cdEffect`, `CdRuns.effect`: what one `cd` does to the two directories, read off its `getcwd`
  and `chdir`; after any run of `cd` calls they are the fold of those effects (`CdRuns`).
* `cd_back_returns`: after a `cd` that moved and remembered where it started, `cd -` asks for
  that directory by `getcwd`'s spelling and, when it moves, returns there.
-/

namespace JobControl

open Sys

/-- Whether a call reads or changes the working directory. -/
def Sys.Call.touchesDir : Call → Bool
  | .currentDir | .changeDir _ => true
  | _ => false

/-- The exchanges of a run that read or change the working directory. -/
def Sys.Trace.dirCalls (tr : Trace) : Trace :=
  tr.filter (·.1.touchesDir)

/-- The working directories of a system, as `getcwd` and `chdir` document them: `spell d` is the
absolute path, without symbolic links, that `getcwd` reports in directory `d`; `reach d path` is
the directory that a `chdir` to `path` that succeeds enters from `d`. -/
structure WorkingDirs (D : Type) where
  spell : D → String
  reach : D → String → D

namespace WorkingDirs

variable {D : Type} (W : WorkingDirs D)

/-- One exchange as a system in working directory `d` answers it, leaving it in `d'`: `getcwd`
reports `spell d` or fails, a `chdir` that succeeds enters `reach d path`, and a failed `chdir`
and every other call leave the directory. -/
inductive Step : D → Exchange → D → Prop
  | reported (d : D) : Step d ⟨.currentDir, Except.ok (W.spell d)⟩ d
  | unreported (d : D) (e : IoError) : Step d ⟨.currentDir, Except.error e⟩ d
  | entered (d : D) (path : String) : Step d ⟨.changeDir path, Except.ok ()⟩ (W.reach d path)
  | refused (d : D) (path : String) (e : IoError) : Step d ⟨.changeDir path, Except.error e⟩ d
  | other (d : D) (e : Exchange) : e.1.touchesDir = false → Step d e d

/-- The answers of a run are those of the system, taking its working directory from `d` to
`d'`. -/
inductive Walk : D → Trace → D → Prop
  | nil (d : D) : Walk d [] d
  | cons {d d' d'' : D} {e : Exchange} {tr : Trace} : W.Step d e d' → Walk d' tr d'' →
      Walk d (e :: tr) d''

variable {W}

theorem walk_nil_iff {d d' : D} : W.Walk d [] d' ↔ d' = d := by
  constructor
  · rintro ⟨⟩
    rfl
  · rintro rfl
    exact .nil _

theorem walk_cons_iff {d d'' : D} {e : Exchange} {tr : Trace} :
    W.Walk d (e :: tr) d'' ↔ ∃ d', W.Step d e d' ∧ W.Walk d' tr d'' := by
  constructor
  · intro h
    cases h with
    | cons hs hw => exact ⟨_, hs, hw⟩
  · rintro ⟨d', hs, hw⟩
    exact .cons hs hw

theorem step_of_not_touchesDir {d d' : D} {e : Exchange} (he : e.1.touchesDir = false)
    (h : W.Step d e d') : d' = d := by
  cases h with
  | other => rfl
  | _ => simp [Call.touchesDir] at he

theorem step_currentDir {d d' : D} {r : Except IoError String}
    (h : W.Step d ⟨.currentDir, r⟩ d') : d' = d ∧ (r = .ok (W.spell d) ∨ ∃ e, r = .error e) := by
  cases h with
  | reported => exact ⟨rfl, .inl rfl⟩
  | unreported e => exact ⟨rfl, .inr ⟨e, rfl⟩⟩
  | other _ he => simp [Call.touchesDir] at he

theorem step_changeDir {d d' : D} {path : String} {r : Except IoError Unit}
    (h : W.Step d ⟨.changeDir path, r⟩ d') :
    (r = .ok () ∧ d' = W.reach d path) ∨ ∃ e, r = .error e ∧ d' = d := by
  cases h with
  | entered => exact .inl ⟨rfl, rfl⟩
  | refused _ e => exact .inr ⟨e, rfl, rfl⟩
  | other _ he => simp [Call.touchesDir] at he

end WorkingDirs

namespace Builtin

variable {D : Type}

/-- Where `cd` goes: the remembered directory for `-`, the argument, or else the home
directory; none when that is not known. -/
def cdTarget (arg prev home : Option String) : Option String :=
  match arg with
  | none => home
  | some a => if a = "-" then prev else some a

/-- What `cd` with first argument `arg` does once its target is known, read off its run `tr` on
a system described by `W` whose working directory went from `d` to `d'`, ending with `o` and the
shell `sh'`. Without a target it makes no call on the working directory and returns 1;
otherwise it asks `getcwd`, then `chdir` to the target. A `chdir` that fails returns 1 and
changes neither directory. One that succeeds returns 0, enters the target, and remembers what
`getcwd` reported (none when it failed); `cd -` also prints its target. -/
def MovesTo (W : WorkingDirs D) (arg : Option String) (sh : Shell) (d : D)
    (target : Option String) (tr : Trace) (o : BuiltinOutcome) (sh' : Shell) (d' : D) : Prop :=
  (target = none → tr.dirCalls = [] ∧ o = .proceed 1 ∧ d' = d ∧ sh'.prevDir = sh.prevDir) ∧
  ∀ t, target = some t →
    ∃ (cur : Except IoError String) (r : Except IoError Unit),
      tr.dirCalls = [⟨.currentDir, cur⟩, ⟨.changeDir t, r⟩] ∧
      (cur = .ok (W.spell d) ∨ ∃ e, cur = .error e) ∧
      (r = .ok () → o = .proceed 0 ∧ d' = W.reach d t ∧ sh'.prevDir = cur.toOption ∧
        (arg = some "-" → sh'.out = sh.out ++ t ++ "\n")) ∧
      (∀ e, r = .error e → o = .proceed 1 ∧ d' = d ∧ sh'.prevDir = sh.prevDir)

/-- One `cd` with first argument `arg`: its target is `cdTarget`, with the home directory the
environment gave, and it moves as `MovesTo` says. -/
def CdLaw (W : WorkingDirs D) (arg : Option String) (sh : Shell) (d : D) (tr : Trace)
    (o : BuiltinOutcome) (sh' : Shell) (d' : D) : Prop :=
  ∃ home : Option String,
    (arg = none → ∃ env : Environment, (⟨.environment, env⟩ : Exchange) ∈ tr ∧ home = env.home?) ∧
    MovesTo W arg sh d (cdTarget arg sh.prevDir home) tr o sh' d'

variable {W : WorkingDirs D}

/-- A call that leaves the working directory alone changes nothing of what `cd` did. -/
theorem MovesTo.cons_quiet {arg : Option String} {sh sh' : Shell} {d d' : D}
    {target : Option String} {tr : Trace} {o : BuiltinOutcome} {e : Exchange}
    (he : e.1.touchesDir = false) (h : MovesTo W arg sh d target tr o sh' d') :
    MovesTo W arg sh d target (e :: tr) o sh' d' := by
  have hcalls : Trace.dirCalls (e :: tr) = tr.dirCalls := by
    simp [Trace.dirCalls, he]
  rw [MovesTo, hcalls]
  exact h

/-- Every run of `cd` obeys its law, whatever the system answers. -/
theorem changeDir_law (W : WorkingDirs D) {args : List String} {sh sh' : Shell} {tr : Trace}
    {o : BuiltinOutcome} {d d' : D} (h : Yields (changeDir args sh) tr (o, sh'))
    (hw : W.Walk d tr d') : CdLaw W args.head? sh d tr o sh' d' := by
  unfold changeDir at h
  extract_lets arg finish at h
  have harg : arg = args.head? := rfl
  have hfinish : ∀ (target? : Except String String) tr o sh' d',
      Yields (finish target?) tr (o, sh') → W.Walk d tr d' →
      MovesTo W arg sh d target?.toOption tr o sh' d' := by
    intro target? tr o sh' d' hy hw
    simp only [finish] at hy
    split at hy
    · obtain ⟨rfl, hr⟩ := yields_pure_iff.mp hy
      obtain ⟨rfl, rfl⟩ := Prod.mk.inj hr
      exact ⟨fun _ => ⟨rfl, rfl, WorkingDirs.walk_nil_iff.mp hw, rfl⟩, fun t ht => (by cases ht)⟩
    · rename_i t
      obtain ⟨cur, tr₁, rfl, hy₁⟩ := yields_ask_bind_iff.mp hy
      obtain ⟨r, tr₂, rfl, hy₂⟩ := yields_ask_bind_iff.mp hy₁
      obtain ⟨d₁, hs₁, hw₁⟩ := WorkingDirs.walk_cons_iff.mp hw
      obtain ⟨d₂, hs₂, hw₂⟩ := WorkingDirs.walk_cons_iff.mp hw₁
      obtain ⟨rfl, hcur⟩ := WorkingDirs.step_currentDir hs₁
      obtain rfl : tr₂ = [] := by
        split at hy₂ <;> exact (yields_pure_iff.mp hy₂).1
      refine ⟨fun h => (by cases h), fun t' ht => ?_⟩
      obtain rfl : t = t' := Option.some.inj ht
      refine ⟨cur, r, rfl, hcur, fun hr => ?_, fun e hr => ?_⟩
      · subst hr
        obtain ⟨-, hr⟩ := yields_pure_iff.mp hy₂
        obtain ⟨rfl, rfl⟩ := Prod.mk.inj hr
        obtain ⟨-, rfl⟩ | ⟨e, he, -⟩ := WorkingDirs.step_changeDir hs₂
        · refine ⟨rfl, WorkingDirs.walk_nil_iff.mp hw₂, ?_, fun h => ?_⟩
          · have hprint : ∀ sh₀ : Shell,
                (if arg = some "-" then sh₀.print t else sh₀).prevDir = sh₀.prevDir := by
              intro sh₀
              split <;> rfl
            rw [hprint]
            cases cur <;> rfl
          · simp [h, Shell.print]
        · cases he
      · subst hr
        obtain ⟨-, hr⟩ := yields_pure_iff.mp hy₂
        obtain ⟨rfl, rfl⟩ := Prod.mk.inj hr
        obtain ⟨h, -⟩ | ⟨-, -, rfl⟩ := WorkingDirs.step_changeDir hs₂
        · cases h
        · exact ⟨rfl, WorkingDirs.walk_nil_iff.mp hw₂, rfl⟩
  rw [← harg]
  clear_value finish arg
  split at h
  · exact ⟨none, fun h => (by cases h), by
      cases hp : sh.prevDir <;> simpa [cdTarget, hp, Except.toOption] using hfinish _ _ _ _ _ h hw⟩
  · rename_i path hpath
    exact ⟨none, fun h => (by cases h), by
      simpa [cdTarget, if_neg hpath, Except.toOption] using hfinish _ _ _ _ _ h hw⟩
  · obtain ⟨env, tr', rfl, h'⟩ := yields_ask_bind_iff.mp h
    obtain ⟨d₁, hs, hw'⟩ := WorkingDirs.walk_cons_iff.mp hw
    obtain rfl := WorkingDirs.step_of_not_touchesDir rfl hs
    refine ⟨env.home?, fun _ => ⟨env, List.mem_cons_self, rfl⟩, MovesTo.cons_quiet rfl ?_⟩
    cases hh : env.home? <;> simpa [cdTarget, hh, Except.toOption] using hfinish _ _ _ _ _ h' hw'

/-- A `cd` that returned 0 had a target, asked `getcwd` and then `chdir` to it, entered it, and
remembered what `getcwd` reported. -/
theorem MovesTo.of_proceed_zero {arg : Option String} {sh sh' : Shell} {d d' : D}
    {target : Option String} {tr : Trace} (h : MovesTo W arg sh d target tr (.proceed 0) sh' d') :
    ∃ (t : String) (cur : Except IoError String), target = some t ∧
      tr.dirCalls = [⟨.currentDir, cur⟩, ⟨.changeDir t, Except.ok ()⟩] ∧
      (cur = .ok (W.spell d) ∨ ∃ e, cur = .error e) ∧ d' = W.reach d t ∧
      sh'.prevDir = cur.toOption ∧ (arg = some "-" → sh'.out = sh.out ++ t ++ "\n") := by
  obtain ⟨hnone, hsome⟩ := h
  cases ht : target with
  | none => exact absurd (hnone ht).2.1 (by simp)
  | some t =>
    obtain ⟨cur, r, hcalls, hcur, hok, herr⟩ := hsome t ht
    cases r with
    | error e => exact absurd (herr e rfl).1 (by simp)
    | ok u =>
      obtain ⟨-, hd, hprev, hout⟩ := hok rfl
      exact ⟨t, cur, rfl, hcalls, hcur, hd, hprev, hout⟩

/-! ## Runs of `cd` calls -/

/-- What one `cd` does to the working directory and the remembered one, read off the exchanges of
its run that touch the working directory: `getcwd`, then a `chdir` to `t` that succeeds, enter
`reach d t` and remember what `getcwd` reported; anything else leaves both. -/
def cdEffect (W : WorkingDirs D) (s : D × Option String) : Trace → D × Option String
  | [⟨.currentDir, cur⟩, ⟨.changeDir t, .ok ()⟩] => (W.reach s.1 t, Except.toOption cur)
  | _ => s

/-- `cd` called once per argument list, each call on the shell the one before left, on a system
described by `W` whose working directory goes from `d` to `d'`; `trs` are the calls' runs. -/
inductive CdRuns (W : WorkingDirs D) :
    List (List String) → Shell → D → List Trace → Shell → D → Prop
  | nil (sh : Shell) (d : D) : CdRuns W [] sh d [] sh d
  | cons {args : List String} {argss : List (List String)} {sh sh₁ sh' : Shell} {d d₁ d' : D}
      {tr : Trace} {trs : List Trace} {o : BuiltinOutcome} :
      Yields (changeDir args sh) tr (o, sh₁) → W.Walk d tr d₁ →
      CdRuns W argss sh₁ d₁ trs sh' d' → CdRuns W (args :: argss) sh d (tr :: trs) sh' d'

/-- One `cd` changes the two directories by its effect. -/
theorem MovesTo.effect {arg : Option String} {sh sh' : Shell} {d d' : D}
    {target : Option String} {tr : Trace} {o : BuiltinOutcome}
    (h : MovesTo W arg sh d target tr o sh' d') :
    cdEffect W (d, sh.prevDir) tr.dirCalls = (d', sh'.prevDir) := by
  obtain ⟨hnone, hsome⟩ := h
  cases ht : target with
  | none =>
    obtain ⟨hcalls, -, rfl, hprev⟩ := hnone ht
    rw [hcalls, hprev]
    rfl
  | some t =>
    obtain ⟨cur, r, hcalls, -, hok, herr⟩ := hsome t ht
    rw [hcalls]
    cases r with
    | ok u =>
      obtain ⟨-, rfl, hprev, -⟩ := hok rfl
      rw [hprev]
      rfl
    | error e =>
      obtain ⟨-, rfl, hprev⟩ := herr e rfl
      rw [hprev]
      rfl

/-- After any run of `cd` calls, the working directory and the remembered one are what the calls'
effects, in order, make of where the run started. -/
theorem CdRuns.effect {argss : List (List String)} {sh sh' : Shell} {d d' : D}
    {trs : List Trace} (h : CdRuns W argss sh d trs sh' d') :
    (trs.map Trace.dirCalls).foldl (cdEffect W) (d, sh.prevDir) = (d', sh'.prevDir) := by
  induction h with
  | nil => rfl
  | cons hy hw _ ih =>
    obtain ⟨home, -, hmoves⟩ := changeDir_law W hy hw
    rw [List.map_cons, List.foldl_cons, MovesTo.effect hmoves]
    exact ih

/-- After a `cd` that moved from `d`, `cd -` asks `chdir` for `getcwd`'s spelling of `d` and, when
it succeeds, prints that spelling and is in `d` again. -/
theorem cd_back_returns (W : WorkingDirs D) (hspell : ∀ d d', W.reach d (W.spell d') = d')
    {args : List String} {sh sh₁ sh₂ : Shell} {tr₁ tr₂ : Trace} {o₂ : BuiltinOutcome}
    {d d₁ d₂ : D} (h₁ : Yields (changeDir args sh) tr₁ (.proceed 0, sh₁)) (hw₁ : W.Walk d tr₁ d₁)
    (hprev : sh₁.prevDir ≠ none) (h₂ : Yields (changeDir ["-"] sh₁) tr₂ (o₂, sh₂))
    (hw₂ : W.Walk d₁ tr₂ d₂) :
    sh₁.prevDir = some (W.spell d) ∧
    (∃ (cur : Except IoError String) (r : Except IoError Unit),
      tr₂.dirCalls = [⟨.currentDir, cur⟩, ⟨.changeDir (W.spell d), r⟩]) ∧
    (o₂ = .proceed 0 → d₂ = d ∧ sh₂.out = sh₁.out ++ W.spell d ++ "\n") := by
  obtain ⟨home₁, -, hmoves₁⟩ := changeDir_law W h₁ hw₁
  obtain ⟨t₁, cur₁, -, -, hcur₁, -, hprev₁, -⟩ := MovesTo.of_proceed_zero hmoves₁
  have hback : sh₁.prevDir = some (W.spell d) := by
    rcases hcur₁ with rfl | ⟨e, rfl⟩
    · exact hprev₁
    · exact absurd hprev₁ hprev
  obtain ⟨home, -, hmoves₂⟩ := changeDir_law W h₂ hw₂
  have htarget : cdTarget ["-"].head? sh₁.prevDir home = some (W.spell d) := by
    simp [cdTarget, hback]
  obtain ⟨cur, r, hcalls, -, -, -⟩ := hmoves₂.2 _ htarget
  refine ⟨hback, ⟨cur, r, hcalls⟩, ?_⟩
  rintro rfl
  obtain ⟨t, -, ht, -, -, hd, -, hout⟩ := MovesTo.of_proceed_zero hmoves₂
  rw [htarget, Option.some.injEq] at ht
  subst ht
  exact ⟨hd.trans (hspell d₁ d), hout rfl⟩

/-- Every `cd` obeys its law; after a move, `cd -` goes back by `getcwd`'s spelling; and any run
of `cd` calls ends where the calls' effects lead. -/
theorem cd_moves_or_keeps_both (W : WorkingDirs D) :
    (∀ (args : List String) (sh sh' : Shell) (tr : Trace) (o : BuiltinOutcome) (d d' : D),
      Yields (changeDir args sh) tr (o, sh') → W.Walk d tr d' →
        CdLaw W args.head? sh d tr o sh' d') ∧
    ((∀ d d', W.reach d (W.spell d') = d') →
      ∀ (args : List String) (sh sh₁ sh₂ : Shell) (tr₁ tr₂ : Trace) (o₂ : BuiltinOutcome)
        (d d₁ d₂ : D),
        Yields (changeDir args sh) tr₁ (.proceed 0, sh₁) → W.Walk d tr₁ d₁ → sh₁.prevDir ≠ none →
        Yields (changeDir ["-"] sh₁) tr₂ (o₂, sh₂) → W.Walk d₁ tr₂ d₂ →
        sh₁.prevDir = some (W.spell d) ∧
        (∃ (cur : Except IoError String) (r : Except IoError Unit),
          tr₂.dirCalls = [⟨.currentDir, cur⟩, ⟨.changeDir (W.spell d), r⟩]) ∧
        (o₂ = .proceed 0 → d₂ = d ∧ sh₂.out = sh₁.out ++ W.spell d ++ "\n")) ∧
    (∀ (argss : List (List String)) (sh sh' : Shell) (trs : List Trace) (d d' : D),
      CdRuns W argss sh d trs sh' d' →
        (trs.map Trace.dirCalls).foldl (cdEffect W) (d, sh.prevDir) = (d', sh'.prevDir)) :=
  ⟨fun _ _ _ _ _ _ _ h hw => changeDir_law W h hw,
    fun hspell _ _ _ _ _ _ _ _ _ _ h₁ hw₁ hprev h₂ hw₂ =>
      cd_back_returns W hspell h₁ hw₁ hprev h₂ hw₂,
    fun _ _ _ _ _ _ h => h.effect⟩

/-- Three directories, `/`, `/usr/bin` and `/tmp`, where `/bin` is a link to `usr/bin`; a path
that names none of them leads nowhere new. -/
def mergedBin : WorkingDirs (Fin 3) where
  spell d := if d = 1 then "/usr/bin" else if d = 2 then "/tmp" else "/"
  reach d path :=
    if path = "/bin" ∨ path = "/usr/bin" then 1
    else if path = "/tmp" then 2
    else if path = "/" then 0
    else d

end Builtin

/-- A system in directory `dir`: `getcwd` reports `dir`, and every other call succeeds. -/
def Sys.inDir (dir : String) : (c : Call) → c.Reply
  | .currentDir => .ok dir
  | c => allSucceed c

namespace Builtin

/-- `cd /tmp` from `/usr/bin`, reached through the link `/bin`, then `cd -` back to `/usr/bin`. -/
theorem back_to_usr_bin :
    let sh := Shell.start (Config.default ⟨[], none⟩) false false
    let first := (changeDir ["/tmp"] sh).runWith (Sys.inDir "/usr/bin")
    let second := (changeDir ["-"] first.2.2).runWith (Sys.inDir "/tmp")
    first.2.1 = .proceed 0 ∧ mergedBin.Walk 1 first.1 2 ∧ first.2.2.prevDir ≠ none ∧
      mergedBin.Walk 2 second.1 1 ∧ second.2.1 = .proceed 0 ∧
      second.2.2.out = first.2.2.out ++ "/usr/bin" ++ "\n" ∧
      CdRuns mergedBin [["/tmp"], ["-"]] sh 1 [first.1, second.1] second.2.2 1 ∧
      ([first.1, second.1].map Trace.dirCalls).foldl (cdEffect mergedBin) (1, sh.prevDir) =
        (1, second.2.2.prevDir) := by
  intro sh first second
  have hspell : ∀ d d', mergedBin.reach d (mergedBin.spell d') = d' := by decide
  have hfirst : first.2.1 = .proceed 0 := rfl
  have hw₁ : mergedBin.Walk 1 first.1 2 :=
    .cons (.reported 1) (.cons (.entered 1 "/tmp") (.nil 2))
  have hprev : first.2.2.prevDir ≠ none := by decide
  have hw₂ : mergedBin.Walk 2 second.1 1 :=
    .cons (.reported 2) (.cons (.entered 2 "/usr/bin") (.nil 1))
  have hsecond : second.2.1 = .proceed 0 := rfl
  have h₁ : Yields (changeDir ["/tmp"] sh) first.1 (.proceed 0, first.2.2) := by
    rw [← hfirst]
    exact (yields_runWith (Sys.inDir "/usr/bin") _).1
  have h₂ := (yields_runWith (Sys.inDir "/tmp") (changeDir ["-"] first.2.2)).1
  obtain ⟨-, -, hreturn⟩ := (cd_moves_or_keeps_both mergedBin).2.1 hspell _ _ _ _ _ _ _ _ _ _ h₁
    hw₁ hprev h₂ hw₂
  have hruns : CdRuns mergedBin [["/tmp"], ["-"]] sh 1 [first.1, second.1] second.2.2 1 :=
    .cons h₁ hw₁ (.cons h₂ hw₂ (.nil _ _))
  exact ⟨hfirst, hw₁, hprev, hw₂, hsecond, (hreturn hsecond).2, hruns,
    (cd_moves_or_keeps_both mergedBin).2.2 _ _ _ _ _ _ hruns⟩

end Builtin

end JobControl
