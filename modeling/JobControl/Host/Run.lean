import JobControl.Host.Programs
import JobControl.Host.Calls
import JobControl.Shell.Session
import JobControl.Text.Utf8

/-!
# Running the shell on the host

A session: a fresh machine whose shell sits in a working directory holding some files, and a
shell that executes lines one after the other. After each line the report gives the outcome,
the last status, what the shell wrote on its two streams, its jobs, and the regular files of the
working directory by name.
-/

namespace JobControl.Host

/-- The environment of the host's processes. -/
def standardEnv : Environment :=
  ⟨[("HOME", "/tmp"), ("PATH", "/usr/local/sbin:/usr/local/bin:/usr/sbin:/usr/bin:/sbin:/bin")],
    some "/root"⟩

/-- A fresh machine whose shell is in `cwd`. -/
def fresh (cwd : String) : Machine :=
  Machine.boot standardEnv loader cwd

/-- What one line of a session came to. -/
structure LineReport where
  outcome : LineOutcome
  status : Int32
  out : String
  err : String
  jobs : List Job
  files : List (String × String)

/-- The regular files of a directory, by name in byte order, read as text. -/
def listing (m : Machine) (dir : String) : List (String × String) :=
  ((m.filesIn dir).map fun (name, d) => (name, Text.decodeLossy d)).mergeSort
    fun a b => decide (a.1 ≤ b.1)

/-- Executes each line in turn, reporting after each. -/
def executeAll (dir : String) : List String → Shell → Machine → List LineReport
  | [], _, _ => []
  | line :: rest, sh, m =>
    let ((outcome, sh), m) := m.runShell (sh.execute line)
    let ((out, err), sh) := sh.takeOutput
    ⟨outcome, sh.lastStatus, out, err, sh.jobs.jobs, listing m dir⟩ :: executeAll dir rest sh m

/-- A session in `dir` with the given files (names and contents) and settings. -/
def session (config : Config) (dir : String) (files : List (String × String))
    (lines : List String) : List LineReport :=
  let m := (fresh "/").makeDirs dir
  let m := files.foldl (fun m (name, content) => m.writeFile (dir ++ "/" ++ name) content.toUTF8) m
  let m := m.updateProc m.shell fun p => { p with cwd := dir }
  executeAll dir lines (Shell.start config false true) m

end JobControl.Host
