import JobControl.Host.Image
import JobControl.Host.Script.Start
import JobControl.Host.Tools.Basic
import JobControl.Host.Tools.Test
import JobControl.Host.Tools.Files
import JobControl.Host.Tools.Listing
import JobControl.Host.Tools.Dump
import JobControl.Host.Tools.Listing
import JobControl.Host.Tools.Lines
import JobControl.Host.Tools.Sort
import JobControl.Host.Tools.Sequence
import JobControl.Host.Tools.Grep
import JobControl.Host.Tools.Translate
import JobControl.Host.Tools.Cut
import JobControl.Host.Tools.Sed.Run

/-!
# The programs of the host

Which program each executable of the host runs, and the loader that starts them. The shells
(`sh`, `dash`, `bash`) run scripts; the utilities are those of `Tool`. An executable whose
program the host does not know does nothing and succeeds.
-/

namespace JobControl.Host

/-- The program an executable of the host runs, given its name and arguments. -/
def programOf (name : String) (argv : List String) : Prog Nat :=
  match name with
  | "sh" | "dash" | "bash" => Script.start argv
  | "true" => pure 0
  | "false" => pure 1
  | "echo" => Tool.echo argv
  | "yes" => Tool.yes argv
  | "sleep" => Tool.sleep argv
  | "kill" => Tool.kill argv
  | "printf" => Tool.printf argv
  | "test" => Tool.test false argv
  | "[" => Tool.test true argv
  | "pwd" => Tool.pwd argv
  | "env" => Tool.env argv
  | "printenv" => Tool.printenv argv
  | "basename" => Tool.basename argv
  | "dirname" => Tool.dirname argv
  | "cat" => Tool.cat argv
  | "tee" => Tool.tee argv
  | "touch" => Tool.touch argv
  | "mkdir" => Tool.mkdir argv
  | "rmdir" => Tool.rmdir argv
  | "rm" => Tool.rm argv
  | "chmod" => Tool.chmod argv
  | "ls" => Tool.ls argv
  | "head" => Tool.head argv
  | "tail" => Tool.tail argv
  | "wc" => Tool.wc argv
  | "sort" => Tool.sort argv
  | "uniq" => Tool.uniq argv
  | "rev" => Tool.rev argv
  | "tac" => Tool.tac argv
  | "seq" => Tool.seq argv
  | "grep" => Tool.grep argv
  | "tr" => Tool.tr argv
  | "cut" => Tool.cut argv
  | "sed" => Tool.sed argv
  | "od" => Tool.od argv
  | _ => pure 0

/-- Starts executables through `execvp`, and subshells as copies of their script. -/
def loader : Loader :=
  ⟨fun fs cwd pathVar path argv => Exec.execvp programOf fs cwd pathVar path argv,
    Script.subshellMain, Script.leaveWith⟩

end JobControl.Host
