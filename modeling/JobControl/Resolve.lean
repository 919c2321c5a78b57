import JobControl.Path

/-!
# Finding a program

A name typed as the first word of a stage becomes the path that is executed:

1. a name that starts with `/` or `./` is taken as it is;
2. else the name joined to the program directory, if there is one and that path is executable;
3. else the name joined to the first non-empty entry of `PATH` (split at `:`) for which that
   path is executable;
4. else the name as it is (whose execution then fails as not found).

Whether a path is executable is the system's answer, so both searches take it as a function into
any monad: the identity monad for statements about a fixed file system, the shell's system calls
when it runs.
-/

namespace JobControl.Resolve

/-- The non-empty entries of a `PATH` value, in order. -/
def searchDirs (pathVar : String) : List String :=
  (pathVar.splitOn ":").filter (!·.isEmpty)

/-- The first of `paths` that is executable. -/
def firstExecutable {m : Type → Type} [Monad m] (isExecutable : String → m Bool) :
    List String → m (Option String)
  | [] => pure none
  | p :: ps => do
    if ← isExecutable p then pure (some p) else firstExecutable isExecutable ps

/-- The program `name` found through a `PATH` value. -/
def inPath {m : Type → Type} [Monad m] (isExecutable : String → m Bool) (name pathVar : String) :
    m (Option String) :=
  firstExecutable isExecutable ((searchDirs pathVar).map (Path.join · name))

/-- Whether a name is used as a path without any search. -/
def isExplicit (name : String) : Bool :=
  name.startsWith "/" || name.startsWith "./"

/-- The path executed for `name`, given the program directory and the `PATH` value. -/
def program {m : Type → Type} [Monad m] (isExecutable : String → m Bool) (name : String)
    (auxDir : Option String) (pathVar : String) : m String := do
  if isExplicit name then return name
  if let some dir := auxDir then
    let candidate := Path.join dir name
    if ← isExecutable candidate then return candidate
  return (← inPath isExecutable name pathVar).getD name

end JobControl.Resolve
