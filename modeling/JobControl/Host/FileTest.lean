import JobControl.Host.Program

/-!
# File tests

What the file tests of `test` and `[` say of a path, from what `stat` tells: its kind, its
size, its special mode bits, whose it is, what the user may do with it, its node and when it
last changed.

The user that runs the programs is not the superuser: reading, writing and executing follow
the permission bits of the user's class, the owner's for the user's own files and the others'
for the rest. A path that leads nowhere passes no file test.

* `FileTest.holds` is the test of one letter (`-f` is `'f'`) on what `stat` told;
* `FileTest.check` asks the host about a path and applies it;
* `FileTest.both` asks about the two paths of `-nt`, `-ot` and `-ef`.
-/

namespace JobControl.Host

namespace FileTest

/-- Whether the file test of a letter holds of a file: `none` for a letter that is no file
test. `-h` and `-L` ask for a symbolic link, `-O` and `-G` for a file of the user (whose group
is the user's own). -/
def holds (letter : Char) (info : FileInfo) : Option Bool :=
  match letter with
  | 'e' => some true
  | 'f' => some (info.kind = .regular)
  | 'd' => some (info.kind = .directory)
  | 'c' => some (info.kind = .device)
  | 'b' => some false
  | 'p' => some (info.kind = .pipe)
  | 'S' => some false
  | 'h' => some (info.kind = .symlink)
  | 'L' => some (info.kind = .symlink)
  | 's' => some (info.size > 0)
  | 'u' => some (info.mode / 0o4000 % 2 = 1)
  | 'g' => some (info.mode / 0o2000 % 2 = 1)
  | 'k' => some (info.mode / 0o1000 % 2 = 1)
  | 'r' => some (info.allows 4)
  | 'w' => some (info.allows 2)
  | 'x' => some (info.allows 1)
  | 'O' => some info.owned
  | 'G' => some info.owned
  | _ => none

/-- Whether a file test looks at a symbolic link itself rather than at what it points to. -/
def onLink (letter : Char) : Bool :=
  letter = 'h' || letter = 'L'

/-- What the file test of a letter says of a path. -/
def check (letter : Char) (path : String) : Prog Bool := do
  match ← Prog.ask (.stat path (!onLink letter)) with
  | .ok info => pure ((holds letter info).getD false)
  | .error _ => pure false

/-- What `stat` tells about each of two paths, where they lead somewhere. -/
def both (a b : String) : Prog (Option FileInfo × Option FileInfo) := do
  let x ← Prog.ask (.stat a true)
  let y ← Prog.ask (.stat b true)
  pure (x.toOption, y.toOption)

end FileTest

end JobControl.Host
