import JobControl.Host.Tools.Utility
import JobControl.Text.Unicode

/-!
# Utilities: listing directories

`ls`: the files named on its command line, then the names in each directory named there (the
working directory without operands), one per line.

* Names are in byte order; `-t` puts the most recently changed first and `-S` the largest
  first (ties in byte order), `-U` keeps the order of the directory, and `-r` reverses.
* Names starting with `.` are hidden unless `-a` (which also shows `.` and `..`) or `-A`.
* `-d` lists a directory as a file; `-R` lists, after each directory, the directories in it,
  depth first, each under a header with its path.
* `-F` marks directories `/`, executables `*`, links `@` and pipes `|`; `-p` marks directories.
* A directory gets a header `name:` when there is more than one operand or a file was listed
  before it; the sections are separated by an empty line.
* Names stand one per line, or (`-C`) in columns filled downwards, (`-x`) in columns filled
  across, or (`-m`) separated by commas, in lines of 80 columns (`COLUMNS`, `-w`); blanks
  between columns are tabs where a tab reaches no further (`-T` sets the tab width, 8).

A link named on the command line is followed, unless `-d` or `-F` is given; a link inside a
directory is not.
-/

namespace JobControl.Host

open Sys

namespace Tool

/-- How `ls` orders names. -/
inductive ListOrder
  | byName
  | byTime
  | bySize
  | asFound
  deriving DecidableEq

/-- How `ls` lays out names. -/
inductive ListFormat
  | oneLine
  | columns
  | across
  | commas
  deriving DecidableEq

/-- What `ls` was asked for. -/
structure ListOptions where
  /-- Every name, `.` and `..` included. -/
  all : Bool
  /-- Every name but `.` and `..`. -/
  almostAll : Bool
  directories : Bool
  classify : Bool
  markDirs : Bool
  reverse : Bool
  recursive : Bool
  order : ListOrder
  format : ListFormat
  /-- The columns of a line; none means no limit. -/
  lineLength : Nat
  tabSize : Nat

/-- A file as `ls` lists it: the name it shows and what `stat` told. -/
structure Listed where
  name : String
  info : FileInfo

/-- Whether one listed file comes before another. -/
def ListOrder.before (order : ListOrder) (a b : Listed) : Bool :=
  match order with
  | .byName | .asFound => decide (a.name < b.name)
  | .byTime => b.info.stamp < a.info.stamp || (a.info.stamp = b.info.stamp && decide (a.name < b.name))
  | .bySize => b.info.size < a.info.size || (a.info.size = b.info.size && decide (a.name < b.name))

/-- Files in the order the options ask for. -/
def ListOptions.sort (o : ListOptions) (fs : List Listed) : List Listed :=
  if o.order = .asFound then fs
  else
    let sorted := fs.mergeSort fun a b => o.order.before a b
    if o.reverse then sorted.reverse else sorted

/-- The mark `-F` or `-p` puts after a name. -/
def ListOptions.mark (o : ListOptions) (info : FileInfo) : String :=
  if o.classify then
    match info.kind with
    | .directory => "/"
    | .symlink => "@"
    | .pipe => "|"
    | .regular => if info.mode &&& 0o111 ≠ 0 then "*" else ""
    | .device => ""
  else if o.markDirs && info.kind = .directory then "/"
  else ""

/-- The columns a name takes on a terminal. -/
def displayWidth (s : String) : Nat :=
  s.toList.foldl (fun w c => w + Text.Unicode.width c.toNat) 0

/-- Blanks from one column to a target column: a tab where the next tab stop (every `tab`
columns) is not past the target, spaces for the rest. `fuel` bounds the blanks. -/
def indent (tab target : Nat) : Nat → Nat → String
  | 0, _ => ""
  | fuel + 1, col =>
    if col < target then
      if tab ≠ 0 && target / tab > (col + 1) / tab then "\t" ++ indent tab target fuel (col + tab - col % tab)
      else " " ++ indent tab target fuel (col + 1)
    else ""

/-- One column layout being tried while names are placed: whether it still fits, its width,
and the width of each of its columns. -/
structure ColumnTry where
  fits : Bool
  length : Nat
  widths : Array Nat

/-- The columns for names of the given widths in lines shorter than `lineLength`: how many, and
the width of each (a name and two blanks, the last column without them). Every number of
columns up to one per three line columns (rounded up) is tried, the names going down each column
(`down`) or along each row; the most that fit are taken, one when none do. -/
def columnLayout (down : Bool) (lineLength : Nat) (widths : List Nat) : Nat × Array Nat :=
  let n := widths.length
  let maxIdx := lineLength / 3 + (if lineLength % 3 ≠ 0 then 1 else 0)
  let maxCols := if 0 < maxIdx && maxIdx < n then maxIdx else n
  let start : Array ColumnTry :=
    (Array.range maxCols).map fun i => ⟨true, (i + 1) * 3, Array.replicate (i + 1) 3⟩
  let place (tries : Array ColumnTry) (entry : Nat × Nat) : Array ColumnTry :=
    let (len, k) := entry
    tries.mapIdx fun i t =>
      if !t.fits then t
      else
        let idx := if down then k / ((n + i) / (i + 1)) else k % (i + 1)
        let real := len + (if idx = i then 0 else 2)
        let cur := t.widths.getD idx 0
        if cur < real then
          let length := t.length + (real - cur)
          ⟨length < lineLength, length, t.widths.setIfInBounds idx real⟩
        else t
  let tries := widths.zipIdx.foldl place start
  let cols := ((List.range (maxCols + 1)).reverse.find? fun c =>
    c ≤ 1 || (tries.getD (c - 1) ⟨false, 0, #[]⟩).fits).getD 1
  (cols, (tries.getD (cols - 1) ⟨false, 0, #[]⟩).widths)

/-- One line of names in columns: each name padded to its column's width but the last. -/
def columnRow (tab : Nat) : Nat → List (String × Nat × Nat) → String
  | _, [] => ""
  | _, [(name, _, _)] => name
  | pos, (name, w, cw) :: rest =>
    name ++ indent tab (pos + cw) (cw + 1) (pos + w) ++ columnRow tab (pos + cw) rest

/-- Names separated by a character and a blank, a line ending where the next name would reach
the line's length. -/
def separated (sep : Char) (lineLength : Nat) (names : List String) : String :=
  let step (acc : String × Nat × Bool) (name : String) : String × Nat × Bool :=
    let (out, pos, first) := acc
    let len := if lineLength = 0 then 0 else displayWidth name
    if first then (out ++ name, pos + len, false)
    else if lineLength = 0 || pos + len + 2 < lineLength then
      (out ++ String.singleton sep ++ " " ++ name, pos + 2 + len, false)
    else (out ++ String.singleton sep ++ "\n" ++ name, len, false)
  (names.foldl step ("", 0, true)).1 ++ "\n"

/-- The listing of files as the options lay it out. -/
def ListOptions.lines (o : ListOptions) (fs : List Listed) : String :=
  let names := fs.map fun f => f.name ++ o.mark f.info
  if names.isEmpty then ""
  else match o.format with
    | .oneLine => String.join (names.map (· ++ "\n"))
    | .commas => separated ',' o.lineLength names
    | .columns | .across =>
      if o.lineLength = 0 then separated ' ' 0 names
      else
        let down := o.format = .columns
        let widths := names.map displayWidth
        let (cols, colWidths) := columnLayout down o.lineLength widths
        let cols := max cols 1
        let n := names.length
        let rows := n / cols + (if n % cols ≠ 0 then 1 else 0)
        let entries := (names.zip widths).toArray
        let row (ks : List Nat) : String :=
          columnRow o.tabSize 0 (ks.zipIdx.filterMap fun (k, col) =>
            (entries[k]?).map fun (name, w) => (name, w, colWidths.getD col 0)) ++ "\n"
        if down then
          String.join ((List.range rows).map fun r =>
            row (((List.range cols).map fun c => r + c * rows).filter (· < n)))
        else
          String.join ((List.range rows).map fun r =>
            row (((List.range cols).map fun c => r * cols + c).filter (· < n)))

/-- Whether a name is shown in a directory's listing. -/
def ListOptions.shows (o : ListOptions) (name : String) : Bool :=
  o.all || o.almostAll || !name.startsWith "."

/-- The options of `ls`: those that change the listing here, and those taken and left alone. -/
def listSpec : OptSpec :=
  { flags := ['1', 'a', 'A', 'B', 'c', 'C', 'd', 'f', 'F', 'g', 'G', 'h', 'H', 'i', 'k', 'l', 'L', 'm', 'n', 'N', 'o', 'p', 'q', 'Q', 'r', 'R', 's', 'S', 't', 'u', 'U', 'v', 'x', 'X', 'Z'], withArg := ['I', 'T', 'w'], longs := [("all", 'a'), ("almost-all", 'A'), ("classify", 'F'), ("directory", 'd'), ("human-readable", 'h'), ("recursive", 'R'), ("reverse", 'r'), ("ignore-backups", 'B'), ("literal", 'N'), ("numeric-uid-gid", 'n'), ("size", 's'), ("inode", 'i'), ("dereference", 'L'), ("help", helpLetter), ("version", versionLetter)] }

/-- The listing of one directory and, with `-R`, of the directories in it: the text, whether a
header was printed yet, and the exit status so far. `fuel` bounds the depth. -/
def listTree (called : String) (o : ListOptions) (headers : Bool) (topLevel : Bool) :
    Nat → String → String × Bool × Nat → Prog (String × Bool × Nat)
  | 0, _, acc => pure acc
  | fuel + 1, dir, (out, first, status) => do
    match ← Prog.ask (.listDir dir) with
    | .error e =>
      complain called ("cannot open directory " ++ quoteFile dir ++ ": " ++ e.description)
      pure (out, first, max status (if topLevel then 2 else 1))
    | .ok names =>
      let names := (if o.all then [".", ".."] else []) ++ names.filter o.shows
      let mut found : List Listed := []
      for n in names do
        match ← Prog.ask (.stat (childPath dir n) false) with
        | .ok info => found := found ++ [⟨n, info⟩]
        | .error _ => pure ()
      let entries := o.sort found
      let header := if o.recursive || headers then (if first then "" else "\n") ++ dir ++ ":\n" else ""
      let mut acc := (out ++ header ++ o.lines entries, false, status)
      if o.recursive then
        for e in entries do
          if e.info.kind = .directory && e.name ≠ "." && e.name ≠ ".." then
            acc ← listTree called o headers false fuel (childPath dir e.name) acc
      pure acc

/-- `ls`: the files among the operands, then the names in each directory among them. -/
def ls (argv : List String) : Prog Nat := do
  let called := argv.headD "ls"
  match options listSpec (argv.drop 1) with
  | .error e =>
    complain called (e.message called)
    pure 2
  | .ok p =>
    let unsorted := p.has 'U' || p.has 'f'
    let format := p.opts.foldl (fun f (c, _) => match c with
      | '1' | 'l' | 'g' | 'n' | 'o' => ListFormat.oneLine
      | 'C' => .columns
      | 'x' => .across
      | 'm' => .commas
      | _ => f) .oneLine
    let env ← Prog.ask .environment
    let columns := (env.lookup "COLUMNS").getD ""
    let fromEnv ← if columns.isEmpty then pure none
      else match columns.toNat? with
        | some n => pure (some n)
        | none =>
          complain called ("ignoring invalid width in environment variable COLUMNS: " ++ quote columns)
          pure none
    let lineLength ← match p.arg? 'w' with
      | some w =>
        match w.toNat? with
        | some n => pure (some n)
        | none =>
          complain called ("invalid line width: " ++ quote w)
          pure none
      | none => pure (some (fromEnv.getD 80))
    let tabSize ← match p.arg? 'T' with
      | some t =>
        match t.toNat? with
        | some n => pure (some n)
        | none =>
          complain called ("invalid tab size: " ++ quote t)
          pure none
      | none => pure (some 8)
    match lineLength, tabSize with
    | none, _ | _, none => pure 2
    | some lineLength, some tabSize =>
    let o : ListOptions := {
      all := p.has 'a' || p.has 'f'
      almostAll := p.has 'A'
      directories := p.has 'd'
      classify := p.has 'F'
      markDirs := p.has 'p'
      reverse := p.has 'r'
      recursive := p.has 'R'
      order := if unsorted then .asFound else if p.has 't' then .byTime else if p.has 'S' then .bySize else .byName
      format := format
      lineLength := lineLength
      tabSize := tabSize }
    let follow := !(o.directories || o.classify)
    let targets := if p.operands.isEmpty then ["."] else p.operands
    let mut status := 0
    let mut plain : List Listed := []
    let mut found : List Listed := []
    for t in targets do
      match ← Prog.ask (.stat t (follow || p.has 'L')) with
      | .error e =>
        complain called ("cannot access " ++ quoteFile t ++ ": " ++ e.description)
        status := 2
      | .ok info =>
        if info.kind = .directory && !o.directories then found := found ++ [⟨t, info⟩]
        else plain := plain ++ [⟨t, info⟩]
    let files := o.sort plain
    let dirs := o.sort found
    let headers := !files.isEmpty || p.operands.length > 1 || dirs.length > 1
    let mut acc := (o.lines files ++ (if !files.isEmpty && !dirs.isEmpty then "\n" else ""), true, status)
    for d in dirs do
      acc ← listTree called o headers true treeDepth d.name acc
    Prog.putStr 1 acc.1
    pure acc.2.2

end Tool

end JobControl.Host
