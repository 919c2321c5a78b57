/-!
# Pipelines

What a command line asks for: one or more stages joined by pipes, each a program name and its
arguments, at most one file read by the first stage and one file written by the last, and a mark
for running the whole in the background.

A stage always has a program, so `Stage` keeps the first word apart, and a pipeline always has a
first stage, so `Pipeline` keeps it apart too.
-/

namespace JobControl

/-- One stage of a pipeline: the program's name as typed, and its arguments. -/
structure Stage where
  program : String
  args : List String
  deriving DecidableEq, Repr

/-- The words of a stage, program first. -/
def Stage.words (s : Stage) : List String :=
  s.program :: s.args

/-- A stage from its words; there is none without a first word. -/
def Stage.ofWords? : List String → Option Stage
  | [] => none
  | w :: ws => some ⟨w, ws⟩

/-- The file that the last stage writes, and whether it is appended to or replaced. -/
structure Target where
  path : String
  append : Bool
  deriving DecidableEq, Repr

/-- A parsed command line. -/
structure Pipeline where
  first : Stage
  rest : List Stage
  input : Option String
  output : Option Target
  background : Bool
  deriving DecidableEq, Repr

namespace Pipeline

/-- The stages in order. -/
def stages (p : Pipeline) : List Stage :=
  p.first :: p.rest

/-- A pipeline proper has more than one stage. -/
def isPipeline (p : Pipeline) : Bool :=
  !p.rest.isEmpty

/-- The program of the first stage, which decides whether the line is a builtin. -/
def program (p : Pipeline) : String :=
  p.first.program

theorem isPipeline_iff (p : Pipeline) : p.isPipeline = true ↔ 1 < p.stages.length := by
  cases p with
  | mk first rest input output background =>
    cases rest <;> simp [isPipeline, stages]

end Pipeline

end JobControl
