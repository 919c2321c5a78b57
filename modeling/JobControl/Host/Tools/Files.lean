import JobControl.Host.Tools.Utility
import JobControl.Host.Tools.Mode

/-!
# Utilities: files and directories

`touch`, `mkdir`, `rmdir`, `rm` and `chmod`.

* `touch` creates each missing file and marks each existing one as changed; with `-c` it
  creates none;
* `mkdir -p` makes missing parents and accepts a directory that exists; `-m` sets the mode, a
  mode (`Mode.compile`) applied to `rwxrwxrwx`;
* `rmdir` removes empty directories, with `-p` also the parents its operand names;
* `rm` removes files, with `-d` also empty directories, with `-r` also directories and what
  they hold; with `-f` a missing file is no error;
* `chmod` applies a mode to each file, with `-R` also to what directories hold; a mode may
  also come as options (`-w`, `-x`), and then a umask that keeps bits from changing is
  reported.
-/

namespace JobControl.Host

open Sys

namespace Tool

/-- `touch`: creates each file that is missing and marks each one as changed now. -/
def touch (argv : List String) : Prog Nat := do
  let called := argv.headD "touch"
  match options { flags := ['a', 'c', 'h', 'm'], withArg := ['d', 'r', 't', '\x01'], longs := [("time", '\x01'), ("no-create", 'c'), ("date", 'd'), ("reference", 'r'), ("no-dereference", 'h'), ("help", helpLetter), ("version", versionLetter)] } (argv.drop 1) with
  | .error e =>
    complain called (e.message called)
    pure 1
  | .ok p =>
    if p.operands.isEmpty then
      complain called ("missing file operand" ++ tryHelp called)
      return 1
    let mut status := 0
    for f in p.operands do
      if p.has 'c' then
        match ← Prog.ask (.stat f true) with
        | .error _ => continue
        | .ok _ => pure ()
      match ← Prog.ask (.touch f) with
      | .ok () => pure ()
      | .error e =>
        complain called ("cannot touch " ++ quoteFile f ++ ": " ++ e.description)
        status := 1
    pure status

/-- The directories a path goes through, shortest first. -/
def prefixes (path : String) : List String :=
  let parts := path.splitOn "/"
  let absolute := path.startsWith "/"
  let named := parts.filter (!·.isEmpty)
  (List.range named.length).map fun i =>
    (if absolute then "/" else "") ++ "/".intercalate (named.take (i + 1))

/-- The umask of the programs: group and others may not write. -/
def umask : Nat := 0o022

/-- `mkdir`: makes each directory. -/
def mkdir (argv : List String) : Prog Nat := do
  let called := argv.headD "mkdir"
  match options { flags := ['p', 'v'], withArg := ['m'], longs := [("context", 'Z'), ("mode", 'm'), ("parents", 'p'), ("verbose", 'v'), ("help", helpLetter), ("version", versionLetter)], optional := ['Z'] } (argv.drop 1) with
  | .error e =>
    complain called (e.message called)
    pure 1
  | .ok p =>
    if p.operands.isEmpty then
      complain called ("missing operand" ++ tryHelp called)
      return 1
    let mode : Option (Option Nat) := match p.arg? 'm' with
      | none => some none
      | some m => (Mode.compile m).map fun chs => some (Mode.adjust 0o777 true umask chs)
    match mode with
    | none =>
      complain called ("invalid mode " ++ quote ((p.arg? 'm').getD ""))
      pure 1
    | some mode =>
    let mut status := 0
    for d in p.operands do
      let steps := if p.has 'p' then prefixes d else [d]
      for s in steps do
        let isLast := s == steps.getLast?.getD d
        match ← Prog.ask (.makeDir s) with
        | .ok () =>
          if p.has 'v' then Prog.putStr 1 (called ++ ": created directory " ++ quoteFile s ++ "\n")
          if isLast then
            match mode with
            | some m => let _ ← Prog.ask (.setMode s m)
            | none => pure ()
        | .error .exist =>
          if p.has 'p' then
            match ← Prog.ask (.stat s true) with
            | .ok info =>
              if info.kind ≠ .directory then
                complain called ("cannot create directory " ++ quote s ++ ": Not a directory")
                status := 1
            | .error _ => pure ()
          else
            complain called ("cannot create directory " ++ quote d ++ ": File exists")
            status := 1
        | .error e =>
          complain called ("cannot create directory " ++ quote d ++ ": " ++ e.description)
          status := 1
          break
    pure status

/-- The parents `rmdir -p` removes after a directory: the path cut before its last slash and
the slashes before that, again and again while a slash is left; `/` ends it. -/
def parentsOf (path : String) : List String :=
  go (path.length + 1) (path.toList.reverse.dropWhile (· = '/'))
where
  /-- The parents of a path given backwards; `fuel` exceeds its slashes. -/
  go : Nat → List Char → List String
    | 0, _ => []
    | fuel + 1, cs =>
      match cs.dropWhile (· ≠ '/') with
      | [] => []
      | rest =>
        let trimmed := rest.dropWhile (· = '/')
        if trimmed.isEmpty then ["/"] else String.ofList trimmed.reverse :: go fuel trimmed

/-- `rmdir`: removes each empty directory; with `-p` then its parents, until one cannot go. -/
def rmdir (argv : List String) : Prog Nat := do
  let called := argv.headD "rmdir"
  match options { flags := ['p', 'v'], withArg := [], longs := [("parents", 'p'), ("verbose", 'v'), ("ignore-fail-on-non-empty", '\x01'), ("help", helpLetter), ("version", versionLetter)] } (argv.drop 1) with
  | .error e =>
    complain called (e.message called)
    pure 1
  | .ok p =>
    if p.operands.isEmpty then
      complain called ("missing operand" ++ tryHelp called)
      return 1
    let ignorable (e : Errno) : Bool := p.has '\x01' && (e == .notempty || e == .exist)
    let announce (d : String) : Prog Unit :=
      if p.has 'v' then Prog.putStr 1 (called ++ ": removing directory, " ++ quoteFile d ++ "\n") else pure ()
    let mut status := 0
    for d in p.operands do
      announce d
      match ← Prog.ask (.removeDir d) with
      | .error e =>
        if !ignorable e then
          complain called ("failed to remove " ++ quoteFile d ++ ": " ++ e.description)
          status := 1
      | .ok () =>
        if p.has 'p' then
          for parent in parentsOf d do
            announce parent
            match ← Prog.ask (.removeDir parent) with
            | .ok () => pure ()
            | .error e =>
              if !ignorable e then
                let what := if e == .notdir then "failed to remove " else "failed to remove directory "
                complain called (what ++ quoteFile parent ++ ": " ++ e.description)
                status := 1
              break
    pure status

/-- Whether the last component of a path is `.` or `..`. -/
def namesDot (path : String) : Bool :=
  let last := ((path.splitOn "/").filter (!·.isEmpty)).getLast?
  last = some "." || last = some ".."

/-- Removes a file for `rm`, complaining when it cannot; whether it went. -/
def removeFile (called : String) (force verbose : Bool) (path : String) : Prog Bool := do
  match ← Prog.ask (.remove path) with
  | .ok () =>
    if verbose then Prog.putStr 1 ("removed " ++ quoteFile path ++ "\n")
    pure true
  | .error e =>
    if force && e == .noent then pure true
    else
      complain called ("cannot remove " ++ quoteFile path ++ ": " ++ e.description)
      pure false

/-- Removes what a path names for `rm -r`: a directory after what it holds, depth first, and
not when something in it stays; whether it all went. `fuel` bounds the depth. -/
def removeTree (called : String) (force verbose : Bool) (path : String) : Nat → Prog Bool
  | 0 => do
    complain called ("cannot remove " ++ quoteFile path ++ ": " ++ Errno.loop.description)
    pure false
  | fuel + 1 => do
    match ← Prog.ask (.stat path false) with
    | .error e =>
      if force && e == .noent then pure true
      else
        complain called ("cannot remove " ++ quoteFile path ++ ": " ++ e.description)
        pure false
    | .ok info =>
      if info.kind ≠ .directory then removeFile called force verbose path
      else
        match ← Prog.ask (.listDir path) with
        | .error e =>
          complain called ("cannot remove " ++ quoteFile path ++ ": " ++ e.description)
          pure false
        | .ok names =>
          let mut whole := true
          for n in names do
            if !(← removeTree called force verbose (childPath path n) fuel) then whole := false
          if !whole then return false
          match ← Prog.ask (.removeDir path) with
          | .ok () =>
            if verbose then Prog.putStr 1 ("removed directory " ++ quoteFile path ++ "\n")
            pure true
          | .error e =>
            complain called ("cannot remove " ++ quoteFile path ++ ": " ++ e.description)
            pure false

/-- `rm`: removes each file; a directory only with `-d` (when empty) or `-r`. -/
def rm (argv : List String) : Prog Nat := do
  let called := argv.headD "rm"
  match options { flags := ['f', 'r', 'R', 'i', 'I', 'v', 'd'], withArg := [], longs := [("dir", 'd'), ("force", 'f'), ("interactive", '\x01'), ("one-file-system", '\x02'), ("no-preserve-root", '\x03'), ("preserve-root", '\x04'), ("recursive", 'r'), ("verbose", 'v'), ("help", helpLetter), ("version", versionLetter)], optional := ['\x01', '\x04'] } (argv.drop 1) with
  | .error e =>
    complain called (e.message called)
    pure 1
  | .ok p =>
    let force := p.has 'f'
    let recursive := p.has 'r' || p.has 'R'
    let verbose := p.has 'v'
    if p.operands.isEmpty then
      if force then return 0
      complain called ("missing operand" ++ tryHelp called)
      return 1
    let mut status := 0
    for f in p.operands do
      match ← Prog.ask (.stat f false) with
      | .error e =>
        if !(force && e == .noent) then
          complain called ("cannot remove " ++ quoteFile f ++ ": " ++ e.description)
          status := 1
      | .ok info =>
        if info.kind ≠ .directory then
          if !(← removeFile called force verbose f) then status := 1
        else if !recursive && !p.has 'd' then
          complain called ("cannot remove " ++ quoteFile f ++ ": " ++ Errno.isdir.description)
          status := 1
        else if !recursive then
          match ← Prog.ask (.removeDir f) with
          | .ok () =>
            if verbose then Prog.putStr 1 ("removed directory " ++ quoteFile f ++ "\n")
          | .error e =>
            complain called ("cannot remove " ++ quoteFile f ++ ": " ++ e.description)
            status := 1
        else if namesDot f then
          complain called ("refusing to remove '.' or '..' directory: skipping " ++ quoteFile f)
          status := 1
        else if !(← removeTree called force verbose f treeDepth) then status := 1
    pure status

/-! ## chmod -/

/-- The letters that make an option of `chmod` a mode, as in `chmod -w f`. -/
def modeLetters : List Char :=
  ['r', 'w', 'x', 'X', 's', 't', 'u', 'g', 'o', 'a', ',', '+', '=', '0', '1', '2', '3', '4',
    '5', '6', '7']

/-- The options of `chmod` that are not modes. -/
def chmodSpec : OptSpec :=
  { flags := ['R', 'c', 'f', 'v'], withArg := ['\x01'], longs := [("changes", 'c'), ("silent", 'f'), ("quiet", 'f'), ("verbose", 'v'), ("recursive", 'R'), ("reference", '\x01'), ("no-preserve-root", '\x02'), ("preserve-root", '\x03'), ("help", helpLetter), ("version", versionLetter)] }

/-- What `chmod` read from its arguments: the option letters, the modes given as options, the
file whose mode to copy, and the operands. -/
structure ChmodArgs where
  flags : List Char
  modes : List String
  reference : Option String
  operands : List String

/-- Reads the letters of one option group of `chmod`: flags, until a letter of a mode makes
the whole argument a mode. -/
def chmodGroup : List Char → Except OptError (List Char × Bool)
  | [] => .ok ([], false)
  | c :: cs =>
    if modeLetters.contains c then .ok ([], true)
    else if chmodSpec.flags.contains c then (chmodGroup cs).map fun (fs, m) => (c :: fs, m)
    else .error (.invalid c)

/-- Reads the arguments of `chmod`, options anywhere before `--`; `fuel` bounds them. -/
def chmodArgs : Nat → ChmodArgs → List String → Except OptError ChmodArgs
  | 0, acc, rest => .ok { acc with operands := acc.operands ++ rest }
  | _ + 1, acc, [] => .ok acc
  | fuel + 1, acc, a :: rest =>
    if a = "--" then .ok { acc with operands := acc.operands ++ rest }
    else if a.startsWith "--" then
      match longOption chmodSpec (a.drop 2).toString rest with
      | .error e => .error e
      | .ok ((c, v), rest) =>
        if c = '\x01' then chmodArgs fuel { acc with reference := some v } rest
        else chmodArgs fuel { acc with flags := acc.flags ++ [c] } rest
    else if a.startsWith "-" && a.length > 1 then
      match chmodGroup (a.drop 1).toString.toList with
      | .error e => .error e
      | .ok (fs, isMode) =>
        let modes := if isMode then acc.modes ++ [a] else acc.modes
        chmodArgs fuel { acc with flags := acc.flags ++ fs, modes := modes } rest
    else chmodArgs fuel { acc with operands := acc.operands ++ [a] } rest

/-- How `chmod` goes: the name it was called by, the changes, into directories or not, silent about failures or not,
what it tells (`0` nothing, `1` changes, `2` every file), and whether to report bits the umask
kept. -/
structure ChmodRun where
  called : String
  changes : List Mode.Change
  recursive : Bool
  silent : Bool
  verbosity : Nat
  surprises : Bool

/-- What became of the mode of one file. -/
inductive ModeOutcome
  | failed
  | retained
  | changed
  deriving DecidableEq

/-- The line `chmod -v` prints about a file. -/
def describeMode (path : String) (old new : Nat) : ModeOutcome → String
  | .failed => "failed to change mode of " ++ quoteFile path ++ " from " ++ Mode.octalText old ++
      " (" ++ Mode.symbolic old ++ ") to " ++ Mode.octalText new ++ " (" ++ Mode.symbolic new ++ ")\n"
  | .retained => "mode of " ++ quoteFile path ++ " retained as " ++ Mode.octalText new ++ " (" ++
      Mode.symbolic new ++ ")\n"
  | .changed => "mode of " ++ quoteFile path ++ " changed from " ++ Mode.octalText old ++ " (" ++
      Mode.symbolic old ++ ") to " ++ Mode.octalText new ++ " (" ++ Mode.symbolic new ++ ")\n"

/-- Changes the mode of a file that is no link; whether it went. -/
def changeMode (r : ChmodRun) (path : String) (info : FileInfo) : Prog Bool := do
  let isDir := info.kind = .directory
  let old := info.mode &&& Mode.all
  let new := Mode.adjust old isDir umask r.changes
  let outcome ← match ← Prog.ask (.setMode path new) with
    | .ok () => pure (if new = old then ModeOutcome.retained else .changed)
    | .error e =>
      if !r.silent then
        complain r.called ("changing permissions of " ++ quoteFile path ++ ": " ++ e.description)
      pure .failed
  if r.verbosity = 2 || (r.verbosity = 1 && outcome = .changed) then
    Prog.putStr 1 (describeMode path old new outcome)
  if outcome = .failed then return false
  let naive := Mode.adjust old isDir 0 r.changes
  if r.surprises && new &&& (Mode.all - naive) ≠ 0 then
    complain r.called (showFile path ++ ": new permissions are " ++ Mode.symbolic new ++ ", not " ++
      Mode.symbolic naive)
    return false
  pure true

/-- Changes the mode of what a path names and, with `-R`, of what a directory holds, links
inside left alone; whether it all went. `fuel` bounds the depth. -/
def changeTree (r : ChmodRun) (path : String) (info : FileInfo) : Nat → Prog Bool
  | 0 => pure false
  | fuel + 1 => do
    if info.kind = .symlink then
      if r.verbosity = 2 then
        Prog.putStr 1 ("neither symbolic link " ++ quoteFile path ++ " nor referent has been changed\n")
      return true
    let done ← changeMode r path info
    if !(r.recursive && info.kind = .directory) then return done
    match ← Prog.ask (.listDir path) with
    | .error e =>
      if !r.silent then
        complain r.called ("cannot read directory " ++ quoteFile path ++ ": " ++ e.description)
      pure false
    | .ok names =>
      let mut whole := done
      for n in names do
        let child := childPath path n
        match ← Prog.ask (.stat child false) with
        | .error e =>
          if !r.silent then
            complain r.called ("cannot access " ++ quoteFile child ++ ": " ++ e.description)
          whole := false
        | .ok i =>
          if !(← changeTree r child i fuel) then whole := false
      pure whole

/-- `chmod`: changes the mode of each file, by a mode or as a reference file has it. -/
def chmod (argv : List String) : Prog Nat := do
  let called := argv.headD "chmod"
  let hint := tryHelp called
  match chmodArgs argv.length ⟨[], [], none, []⟩ (argv.drop 1) with
  | .error e =>
    complain called (e.message called)
    pure 1
  | .ok a =>
    let optionMode := if a.modes.isEmpty then none else some (",".intercalate a.modes)
    if a.reference.isSome && optionMode.isSome then
      complain called ("cannot combine mode and --reference options" ++ hint)
      return 1
    let (mode, files, fromOperand) : Option String × List String × Bool :=
      match a.reference, optionMode with
      | some _, _ => (none, a.operands, false)
      | none, some m => (some m, a.operands, false)
      | none, none => (a.operands.head?, a.operands.drop 1, true)
    if files.isEmpty then
      match mode with
      | some m =>
        complain called ((if fromOperand then "missing operand after " ++ quote m else "missing operand") ++ hint)
      | none => complain called ("missing operand" ++ hint)
      return 1
    let changes ← match a.reference, mode with
      | some ref, _ =>
        match ← Prog.ask (.stat ref true) with
        | .ok info => pure (some [(⟨'=', .given, Mode.all, info.mode &&& Mode.all, Mode.all⟩ : Mode.Change)])
        | .error e =>
          complain called ("failed to get attributes of " ++ quoteFile ref ++ ": " ++ e.description)
          pure none
      | none, some m =>
        match Mode.compile m with
        | some chs => pure (some chs)
        | none =>
          complain called ("invalid mode: " ++ quote m ++ hint)
          pure none
      | none, none => pure none
    match changes with
    | none => pure 1
    | some chs =>
      let r : ChmodRun := ⟨called, chs, a.flags.contains 'R', a.flags.contains 'f',
        if a.flags.contains 'v' then 2 else if a.flags.contains 'c' then 1 else 0, optionMode.isSome⟩
      let mut status := 0
      for f in files do
        match ← Prog.ask (.stat f true) with
        | .ok info =>
          if !(← changeTree r f info treeDepth) then status := 1
        | .error e =>
          let dangling ← match e, ← Prog.ask (.stat f false) with
            | .noent, .ok i => pure (decide (i.kind = .symlink))
            | _, _ => pure false
          if !r.silent then
            if dangling then complain called ("cannot operate on dangling symlink " ++ quoteFile f)
            else complain called ("cannot access " ++ quoteFile f ++ ": " ++ e.description)
          status := 1
      pure status

end Tool

end JobControl.Host
