import JobControl.Path

/-!
# Where the shell keeps its files

The directories are read from the environment:

* home: `HOME` when it is set and not empty, else the home of the account, if known;
* data home: `XDG_DATA_HOME` when it is an absolute path, else `<home>/.local/share`; without a
  home at all, `/tmp/.local/share`, and then `XDG_DATA_HOME` is not consulted;
* data directory: `<data home>/jobsh`;
* program directory: `JOBSH_BIN_DIR` when set and not empty, else `<data directory>/bin`.
-/

namespace JobControl

/-- The variables of a process, and the home directory its account has. -/
structure Environment where
  vars : List (String × String)
  accountHome : Option String

namespace Environment

/-- The value of a variable, if it is set. -/
def get? (env : Environment) (name : String) : Option String :=
  env.vars.lookup name

/-- The value of a variable, if it is set and not empty. -/
def getNonEmpty? (env : Environment) (name : String) : Option String :=
  (env.get? name).filter (!·.isEmpty)

/-- The home directory. -/
def home? (env : Environment) : Option String :=
  (env.getNonEmpty? "HOME").or env.accountHome

/-- The directory for user data. -/
def dataHome (env : Environment) : String :=
  match env.home? with
  | some home =>
    match env.get? "XDG_DATA_HOME" with
    | some dir => if Path.isAbsolute dir then dir else Path.join home ".local/share"
    | none => Path.join home ".local/share"
  | none => Path.join (Path.join "/tmp" ".local") "share"

/-- The shell's own data directory. -/
def dataDir (env : Environment) : String :=
  Path.join env.dataHome "jobsh"

/-- The directory searched for programs before `PATH`. -/
def binDir (env : Environment) : String :=
  match env.getNonEmpty? "JOBSH_BIN_DIR" with
  | some dir => dir
  | none => Path.join env.dataDir "bin"

end Environment

end JobControl
