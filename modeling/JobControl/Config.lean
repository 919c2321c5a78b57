import JobControl.Locations
import JobControl.Job.Table

/-!
# Shell settings

The name in diagnostics, the most jobs and the most pipeline stages, the directory searched for
programs before `PATH`, and whether the shell runs on a terminal (unknown until asked). Both
limits are at least 1 once set.
-/

namespace JobControl

/-- The settings of a shell. -/
structure Config where
  name : String
  maxJobs : Nat
  maxStages : Nat
  auxDir : Option String
  interactive : Option Bool
  deriving DecidableEq, Repr

namespace Config

/-- The default number of stages in a line. -/
def defaultMaxStages : Nat := 16

/-- The defaults, with the program directory taken from the environment. -/
def default (env : Environment) : Config :=
  ⟨"jobsh", Table.defaultCapacity, defaultMaxStages, some env.binDir, none⟩

/-- The defaults for a shell on a terminal. -/
def interactiveDefault (env : Environment) : Config :=
  { default env with interactive := some true }

/-- The defaults for a shell that reads lines without a terminal. -/
def batch (env : Environment) : Config :=
  { default env with interactive := some false }

/-- Sets the name used in diagnostics. -/
def withName (c : Config) (name : String) : Config :=
  { c with name := name }

/-- Sets the most jobs, at least 1. -/
def withMaxJobs (c : Config) (n : Nat) : Config :=
  { c with maxJobs := max n 1 }

/-- Sets the most stages, at least 1. -/
def withMaxStages (c : Config) (n : Nat) : Config :=
  { c with maxStages := max n 1 }

/-- Sets or clears the program directory. -/
def withAuxDir (c : Config) (dir : Option String) : Config :=
  { c with auxDir := dir }

/-- Says whether the shell runs on a terminal. -/
def withInteractive (c : Config) (b : Bool) : Config :=
  { c with interactive := some b }

end Config

end JobControl
