import JobControl.Proofs.Shell.Collecting
import JobControl.Shell.Launch

/-!
# The path a program name runs from

A stage's first word becomes a path by four rules, each applying only when none before it does
(`Resolves`):

1. a name that starts with `/` or `./` is used as it is (`Verbatim`);
2. else the name joined to the program directory, when there is one and that path is executable;
3. else the name joined to the first non-empty entry of `PATH`, split at `:`, for which that path
   is executable (`FoundIn`);
4. else the name as it is (`NotFoundIn` says that the search found nothing).

Whether a path is executable (a regular file, links followed, with an execute bit) is the file
system's answer. The statements take that answer as any function `exec`, so they hold whatever
files and modes the system has.

* `firstExecutable_pure`, `inPath_pure`: on a fixed file system both searches are `List.find?`;
* `inPath_eq_some_iff`, `inPath_eq_none_iff`: the search of `PATH` against the third rule;
* `program_of_verbatim`, `program_of_aux`, `program_of_search`: what `program` does, rule by
  rule; from them `resolves_program` (the path found follows the rules) and
  `Resolves.eq_program` (the rules allow that path only);
* `runWith_program`, `locate_runWith`: the shell asks its system about each path and reads `PATH`
  from its environment, empty when unset, so on any system it follows the same rules.
-/

namespace JobControl.Resolve

open Sys

/-- A name taken as it is: it starts with `/` or `./`. -/
def Verbatim (name : String) : Prop :=
  name.startsWith "/" = true ∨ name.startsWith "./" = true

/-- The search of `PATH` for `name` ends at `c`: `c` is `name` joined to an entry `d` of the value
split at `:`, where `d` is not empty, that join is executable, and every non-empty entry before
`d` fails that test. -/
def FoundIn (exec : String → Bool) (name pathVar c : String) : Prop :=
  ∃ pre d post, pathVar.splitOn ":" = pre ++ d :: post ∧ d ≠ "" ∧
    exec (Path.join d name) = true ∧
    (∀ e ∈ pre, e ≠ "" → exec (Path.join e name) = false) ∧ c = Path.join d name

/-- No non-empty entry of `PATH` holds `name` executable. -/
def NotFoundIn (exec : String → Bool) (name pathVar : String) : Prop :=
  ∀ d ∈ pathVar.splitOn ":", d ≠ "" → exec (Path.join d name) = false

/-- The path that the rules give for `name`, with the program directory `auxDir`, the value
`pathVar` of `PATH`, and `exec` saying which paths are executable. Each rule states that the
rules before it do not apply. -/
inductive Resolves (exec : String → Bool) (name : String) (auxDir : Option String)
    (pathVar : String) : String → Prop
  | verbatim : Verbatim name → Resolves exec name auxDir pathVar name
  | aux {dir : String} : ¬Verbatim name → auxDir = some dir →
      exec (Path.join dir name) = true → Resolves exec name auxDir pathVar (Path.join dir name)
  | path {c : String} : ¬Verbatim name →
      (∀ dir, auxDir = some dir → exec (Path.join dir name) = false) →
      FoundIn exec name pathVar c → Resolves exec name auxDir pathVar c
  | bare : ¬Verbatim name →
      (∀ dir, auxDir = some dir → exec (Path.join dir name) = false) →
      NotFoundIn exec name pathVar → Resolves exec name auxDir pathVar name

theorem isExplicit_iff {name : String} : isExplicit name = true ↔ Verbatim name := by
  simp [isExplicit, Verbatim]

section Fixed

variable (exec : String → Bool)

/-! ## The searches on a fixed file system -/

theorem firstExecutable_pure (ps : List String) :
    Id.run (firstExecutable (fun p => pure (exec p)) ps) = ps.find? exec := by
  induction ps with
  | nil => rfl
  | cons p ps ih =>
    rw [firstExecutable, List.find?_cons]
    cases h : exec p with
    | true => rfl
    | false => exact ih

/-- The search of `PATH` tests the entries in order, skipping the empty ones. -/
theorem inPath_pure (name pathVar : String) :
    Id.run (inPath (fun p => pure (exec p)) name pathVar) =
      ((pathVar.splitOn ":").find? fun d => d ≠ "" && exec (Path.join d name)).map
        (Path.join · name) := by
  rw [inPath, firstExecutable_pure, searchDirs, List.find?_map, List.find?_filter]
  congr 1
  apply List.find?_congr
  simp

variable {exec}

theorem inPath_eq_some_iff {name pathVar c : String} :
    Id.run (inPath (fun p => pure (exec p)) name pathVar) = some c ↔
      FoundIn exec name pathVar c := by
  rw [inPath_pure, Option.map_eq_some_iff]
  constructor
  · rintro ⟨d, hfind, rfl⟩
    obtain ⟨hd, pre, post, hsplit, hpre⟩ := List.find?_eq_some_iff_append.mp hfind
    simp only [Bool.and_eq_true, decide_eq_true_eq] at hd
    refine ⟨pre, d, post, hsplit, hd.1, hd.2, fun e he hne => ?_, rfl⟩
    simpa [hne] using hpre e he
  · rintro ⟨pre, d, post, hsplit, hne, hexec, hpre, rfl⟩
    refine ⟨d, List.find?_eq_some_iff_append.mpr ⟨by simp [hne, hexec], pre, post, hsplit,
      fun e he => ?_⟩, rfl⟩
    by_cases he' : e = ""
    · simp [he']
    · simp [he', hpre e he he']

theorem inPath_eq_none_iff {name pathVar : String} :
    Id.run (inPath (fun p => pure (exec p)) name pathVar) = none ↔
      NotFoundIn exec name pathVar := by
  rw [inPath_pure, Option.map_eq_none_iff, List.find?_eq_none]
  apply forall₂_congr
  intro d _
  cases exec (Path.join d name) <;> simp

/-! ## `program`, rule by rule -/

variable {name : String} {auxDir : Option String} {pathVar : String}

theorem program_of_verbatim (hv : Verbatim name) :
    Id.run (program (fun p => pure (exec p)) name auxDir pathVar) = name := by
  simp [program, isExplicit_iff.mpr hv]

theorem program_of_aux {dir : String} (hv : ¬Verbatim name) (hdir : auxDir = some dir)
    (hexec : exec (Path.join dir name) = true) :
    Id.run (program (fun p => pure (exec p)) name auxDir pathVar) = Path.join dir name := by
  have hx : isExplicit name = false := by simpa [← isExplicit_iff] using hv
  subst hdir
  simp [program, hx, hexec]

/-- Past the first two rules, the search of `PATH` decides, and the name stays when it fails. -/
theorem program_of_search (hv : ¬Verbatim name)
    (haux : ∀ dir, auxDir = some dir → exec (Path.join dir name) = false) :
    Id.run (program (fun p => pure (exec p)) name auxDir pathVar) =
      (Id.run (inPath (fun p => pure (exec p)) name pathVar)).getD name := by
  have hx : isExplicit name = false := by simpa [← isExplicit_iff] using hv
  cases auxDir with
  | none => simp [program, hx]
  | some dir => simp [program, hx, haux dir rfl]

/-! ## The rules decide the path -/

variable (exec name auxDir pathVar)

/-- The path `program` finds follows the rules. -/
theorem resolves_program :
    Resolves exec name auxDir pathVar
      (Id.run (program (fun p => pure (exec p)) name auxDir pathVar)) := by
  by_cases hv : Verbatim name
  · rw [program_of_verbatim hv]
    exact .verbatim hv
  by_cases hfound : ∃ dir, auxDir = some dir ∧ exec (Path.join dir name) = true
  · obtain ⟨dir, hdir, hexec⟩ := hfound
    rw [program_of_aux hv hdir hexec]
    exact .aux hv hdir hexec
  have haux : ∀ dir, auxDir = some dir → exec (Path.join dir name) = false := by
    intro dir hdir
    simpa using fun hexec => hfound ⟨dir, hdir, hexec⟩
  rw [program_of_search hv haux]
  cases h : Id.run (inPath (fun p => pure (exec p)) name pathVar) with
  | some c => exact .path hv haux (inPath_eq_some_iff.mp h)
  | none => exact .bare hv haux (inPath_eq_none_iff.mp h)

variable {exec name auxDir pathVar}

/-- The rules allow one path only: the one `program` finds. -/
theorem Resolves.eq_program {c : String} (h : Resolves exec name auxDir pathVar c) :
    c = Id.run (program (fun p => pure (exec p)) name auxDir pathVar) := by
  cases h with
  | verbatim hv => rw [program_of_verbatim hv]
  | aux hv hdir hexec => rw [program_of_aux hv hdir hexec]
  | path hv haux hfound =>
    rw [program_of_search hv haux, inPath_eq_some_iff.mpr hfound]
    rfl
  | bare hv haux hnone =>
    rw [program_of_search hv haux, inPath_eq_none_iff.mpr hnone]
    rfl

theorem program_eq_iff_resolves {c : String} :
    Id.run (program (fun p => pure (exec p)) name auxDir pathVar) = c ↔
      Resolves exec name auxDir pathVar c := by
  constructor
  · rintro rfl
    exact resolves_program exec name auxDir pathVar
  · intro h
    exact h.eq_program.symm

end Fixed

/-! ## The shell's search, on any system -/

section Answered

variable (answer : (c : Call) → c.Reply)

/-- Run on a system that answers by a fixed function, a search whose test of a path is any
program of calls tests each path by the result of that program. -/
theorem runWith_firstExecutable (test : String → Sys Bool) (ps : List String) :
    ((firstExecutable test ps).runWith answer).2 =
      ps.find? fun p => ((test p).runWith answer).2 := by
  induction ps with
  | nil => rfl
  | cons p ps ih =>
    rw [firstExecutable, runWith_bind_snd, List.find?_cons]
    cases ((test p).runWith answer).2 with
    | true => rfl
    | false => exact ih

theorem runWith_program (test : String → Sys Bool) (name : String) (auxDir : Option String)
    (pathVar : String) :
    ((program test name auxDir pathVar).runWith answer).2 =
      Id.run (program (fun p => pure ((test p).runWith answer).2) name auxDir pathVar) := by
  have hsearch : ((inPath test name pathVar >>= fun found => pure (found.getD name)).runWith
      answer).2 =
        (Id.run (inPath (fun p => pure ((test p).runWith answer).2) name pathVar)).getD name := by
    rw [runWith_bind_snd, inPath, runWith_firstExecutable, inPath, firstExecutable_pure]
    rfl
  unfold program
  split
  · rfl
  cases auxDir with
  | none => exact hsearch
  | some dir =>
    simp only [runWith_bind_snd]
    cases ((test (Path.join dir name)).runWith answer).2 with
    | true => rfl
    | false => exact hsearch

/-- The shell reads `PATH` from its environment, the empty value when it is unset, and asks its
system about each path it tries. -/
theorem locate_runWith (sh : Shell) (name : String) :
    ((Launch.locate sh name).runWith answer).2 =
      Id.run (program (fun p => pure (answer (.isExecutable p))) name sh.config.auxDir
        (((answer .environment).get? "PATH").getD "")) := by
  unfold Launch.locate
  rw [runWith_ask_bind_snd]
  exact runWith_program answer _ name _ _

end Answered

/-- The path a name runs from is the one the four rules give, on every file system and for every
`PATH`, also when the shell reads `PATH` from its environment. -/
theorem program_takes_first_rule (exec : String → Bool) (name : String) (auxDir : Option String)
    (pathVar c : String) :
    (Id.run (program (fun p => pure (exec p)) name auxDir pathVar) = c ↔
      Resolves exec name auxDir pathVar c) ∧
    (Id.run (inPath (fun p => pure (exec p)) name pathVar) = some c ↔
      FoundIn exec name pathVar c) ∧
    (Id.run (inPath (fun p => pure (exec p)) name pathVar) = none ↔
      NotFoundIn exec name pathVar) ∧
    ∀ (sh : Shell) (answer : (c : Call) → c.Reply),
      ((Launch.locate sh name).runWith answer).2 = c ↔
        Resolves (fun p => answer (.isExecutable p)) name sh.config.auxDir
          (((answer .environment).get? "PATH").getD "") c := by
  refine ⟨program_eq_iff_resolves, inPath_eq_some_iff, inPath_eq_none_iff, fun sh answer => ?_⟩
  rw [locate_runWith]
  exact program_eq_iff_resolves

end JobControl.Resolve
