import JobControl.Host.Tools.Utility
import JobControl.Host.Regex.Match

/-!
# Utilities: grep

`grep` prints the lines of its inputs that a pattern matches. The patterns are the first
operand, or every `-e` argument, each cut at newlines; a line is selected when one of them
matches it (basic expressions, extended with `-E`, fixed strings with `-F`), with `-i` ignoring
case, `-w` asking the match to be a whole word and `-x` the whole line; `-v` selects the other
lines.

The status is 0 when a line was selected, 1 when none was, 2 when an input could not be read
or a pattern is bad (but 0 with `-q` once a line is selected).
-/

namespace JobControl.Host

open Sys

namespace Tool

/-- How `grep` is asked to select and print lines. -/
structure GrepMode where
  invert : Bool
  whole : Bool
  word : Bool
  fold : Bool

/-- Whether a match from `a` to `b` in a line counts under `-w` and `-x`. -/
def GrepMode.accepts (m : GrepMode) (line : ByteArray) (a b : Nat) : Bool :=
  if m.whole then a = 0 && b = line.size
  else if m.word then
    let s : Regex.Subject := ⟨line, false, false⟩
    !s.wordBefore a && !s.wordAt b
  else true

/-- The first match in a line at or after a place that the mode accepts. -/
def GrepMode.firstMatch (m : GrepMode) (r : Regex) (line : ByteArray) (start : Nat) :
    Option (Nat × Nat) :=
  (Regex.searchWith r ⟨line, m.fold, false⟩ (m.accepts line) (line.size + 2) start).map fun (a, b, _) => (a, b)

/-- Every non-empty match of a line, in order, as `-o` prints them: where each starts and
ends. -/
def GrepMode.allMatches (m : GrepMode) (r : Regex) (line : ByteArray) : Nat → Nat → List (Nat × Nat)
  | 0, _ => []
  | fuel + 1, start =>
    match m.firstMatch r line start with
    | none => []
    | some (a, b) =>
      if b = a then GrepMode.allMatches m r line fuel (a + Regex.Subject.stepAt ⟨line, false, false⟩ a)
      else (a, b) :: GrepMode.allMatches m r line fuel b

/-- Reads the patterns as one expression that any of them matches. -/
def grepPattern (extended fixed : Bool) (patterns : List String) : Except String Regex :=
  let compiled := patterns.map fun p =>
    if fixed then .ok (Regex.literal (Regex.codes p)) else Regex.compile extended p
  let joined : Except String (Option Regex) := compiled.foldr (fun c acc =>
    match c, acc with
    | .error e, _ => .error e
    | _, .error e => .error e
    | .ok r, .ok none => .ok (some r)
    | .ok r, .ok (some rest) => .ok (some (.alt r rest))) (.ok none)
  -- no pattern at all matches nothing
  joined.map (·.getD (.oneOf false []))

/-- How `grep` prints lines: which heads go before them, the context asked for, and the line
end. -/
structure GrepLayout where
  named : Bool
  numbers : Bool
  offsets : Bool
  only : Bool
  invert : Bool
  /-- Lines of context before and after each selected line; none when not asked for. -/
  before : Option Nat
  after : Option Nat
  /-- The line between groups of lines that are not adjacent. -/
  separator : Option String
  /-- `-Z`: a NUL byte follows the file name instead of the separator. -/
  nullName : Bool
  eol : UInt8

/-- A line of an input: its bytes and the offset of its first byte. -/
structure GrepLine where
  bytes : ByteArray
  offset : Nat

/-- The head of a printed line: file name, line number and byte offset, each followed by the
separator (`:` for selected lines, `-` for context). -/
def GrepLayout.head (L : GrepLayout) (name : String) (number offset : Nat) (sep : Char) : ByteArray :=
  let s := String.singleton sep
  (if L.named then name.toUTF8 ++ (if L.nullName then ByteArray.mk #[0] else s.toUTF8) else ByteArray.empty) ++
    (if L.numbers then (toString number ++ s).toUTF8 else ByteArray.empty) ++
    (if L.offsets then (toString offset ++ s).toUTF8 else ByteArray.empty)

/-- What is printed for one line, selected or of context. With `-o` only the matches of lines
that match are printed, each with its own head. -/
def GrepLayout.printLine (L : GrepLayout) (mode : GrepMode) (r : Regex) (name : String)
    (index : Nat) (line : GrepLine) (selected : Bool) : ByteArray :=
  if L.only then
    if selected != L.invert then
      let sep := if L.invert then '-' else ':'
      (mode.allMatches r line.bytes (line.bytes.size + 2) 0).foldl (fun acc (a, b) =>
        (acc ++ L.head name (index + 1) (line.offset + a) sep ++ line.bytes.extract a b).push L.eol)
        ByteArray.empty
    else ByteArray.empty
  else (L.head name (index + 1) line.offset (if selected then ':' else '-') ++ line.bytes).push L.eol

/-- Where printing one input stands: the output so far, the line after the last one printed,
how many lines of trailing context are still due, how many lines were selected, and whether
anything was printed by `grep` at all (before this input too). -/
structure GrepPrint where
  out : ByteArray := ByteArray.empty
  lastOut : Option Nat := none
  pending : Nat := 0
  count : Nat := 0
  used : Bool

/-- Prints the lines from `lastOut` on, up to `stop`, while trailing context is due. -/
def GrepPrint.flush (st : GrepPrint) (line : Nat → Option GrepLine) (print : Nat → GrepLine → ByteArray)
    (stop : Nat) : Nat → GrepPrint
  | 0 => st
  | fuel + 1 =>
    let k := st.lastOut.getD 0
    if st.pending = 0 || k ≥ stop then st
    else
      match line k with
      | none => st
      | some l =>
        GrepPrint.flush { st with out := st.out ++ print k l, lastOut := some (k + 1), pending := st.pending - 1 }
          line print stop fuel

/-- Prints the lines of one input: each selected line with the context before it (from the last
line printed on) and after it, a separator before a group that does not follow the last line
printed, and after the last selected line that `limit` allows, its trailing context. -/
def GrepLayout.printAll (L : GrepLayout) (lines : Array GrepLine) (select : Nat → Bool)
    (print : Nat → GrepLine → Bool → ByteArray) (limit : Option Nat) (used : Bool) : GrepPrint :=
  let line (k : Nat) : Option GrepLine := lines[k]?
  let context (k : Nat) (l : GrepLine) : ByteArray := print k l false
  let n := lines.size
  let step (st : GrepPrint) (i : Nat) : GrepPrint :=
    if limit.any (st.count ≥ ·) then st
    else if !select i then st
    else
      let st := st.flush line context i (n + 1)
      let bottom := st.lastOut.getD 0
      let start := max bottom (i - L.before.getD 0)
      let sep := if (L.before.isSome || L.after.isSome) && st.used && st.lastOut != some start then
          match L.separator with
          | some s => (s ++ "\n").toUTF8
          | none => ByteArray.empty
        else ByteArray.empty
      let before := (List.range (i - start)).foldl (fun acc j =>
        match line (start + j) with
        | some l => acc ++ context (start + j) l
        | none => acc) ByteArray.empty
      let here := match line i with
        | some l => print i l true
        | none => ByteArray.empty
      { out := st.out ++ sep ++ before ++ here, lastOut := some (i + 1), pending := L.after.getD 0,
        count := st.count + 1, used := true }
  let st := (List.range n).foldl step { used := used }
  st.flush line context n (n + 1)

/-- The letters standing for long options of `grep` that have no short form. -/
def groupSeparatorLetter : Char := '\x01'

/-- `--no-group-separator`. -/
def noGroupSeparatorLetter : Char := '\x02'

/-- `--color` and `--colour`. -/
def colorLetter : Char := '\x03'

/-- The options of `grep`. -/
def grepOptions : OptSpec where
  flags := ['v', 'c', 'i', 'y', 'n', 'x', 'q', 's', 'h', 'H', 'l', 'L', 'o', 'E', 'F', 'G', 'w',
    'r', 'R', 'z', 'a', 'I', 'b', 'U', 'T', 'Z', 'u', noGroupSeparatorLetter, '\x15', '\x17']
  withArg := ['e', 'f', 'm', 'A', 'B', 'C', 'd', 'D', groupSeparatorLetter, '\x10', '\x11', '\x12',
    '\x13', '\x14', '\x16']
  longs := [("basic-regexp", 'G'), ("extended-regexp", 'E'), ("fixed-regexp", 'F'),
    ("fixed-strings", 'F'), ("perl-regexp", 'P'), ("after-context", 'A'), ("before-context", 'B'),
    ("binary-files", '\x10'), ("byte-offset", 'b'), ("context", 'C'), ("color", colorLetter),
    ("colour", colorLetter), ("count", 'c'), ("devices", 'D'), ("directories", 'd'),
    ("dereference-recursive", 'R'), ("exclude", '\x11'), ("exclude-from", '\x12'),
    ("exclude-dir", '\x13'), ("file", 'f'), ("files-with-matches", 'l'),
    ("files-without-match", 'L'), ("group-separator", groupSeparatorLetter), ("help", helpLetter),
    ("include", '\x14'), ("ignore-case", 'i'), ("no-ignore-case", '\x15'), ("initial-tab", 'T'),
    ("label", '\x16'), ("line-buffered", '\x17'), ("line-number", 'n'), ("line-regexp", 'x'),
    ("max-count", 'm'), ("no-filename", 'h'), ("no-group-separator", noGroupSeparatorLetter),
    ("no-messages", 's'), ("null", 'Z'), ("null-data", 'z'), ("only-matching", 'o'),
    ("quiet", 'q'), ("recursive", 'r'), ("dereference-recursive", 'R'), ("regexp", 'e'),
    ("invert-match", 'v'), ("silent", 'q'), ("text", 'a'), ("binary", 'U'),
    ("unix-byte-offsets", 'u'), ("version", versionLetter), ("with-filename", 'H'),
    ("word-regexp", 'w')]
  optional := [colorLetter]

/-- Reads a count of context lines: blanks and a `+`, then decimal digits. -/
def contextLength (s : String) : Option Nat :=
  let cs := s.toList.dropWhile fun c => c = ' ' || c = '\t' || c = '\n'
  let cs := match cs with
    | '+' :: r => r
    | r => r
  if !cs.isEmpty && cs.all Char.isDigit then (String.ofList cs).toNat? else none

/-- The lines of an input, cut at `eol`, each with the offset of its first byte; a last line
may lack the `eol`. -/
def grepLines (eol : UInt8) (d : ByteArray) : Array GrepLine :=
  let (cur, start, acc) := d.foldl (fun (st : ByteArray × Nat × Array GrepLine) b =>
    let (cur, start, acc) := st
    if b = eol then (ByteArray.empty, start + cur.size + 1, acc.push ⟨cur, start⟩)
    else (cur.push b, start, acc)) (ByteArray.empty, 0, #[])
  if cur.size = 0 then acc else acc.push ⟨cur, start⟩

/-- The files under a directory, depth first in the order of its entries, each named by the
directory's path and its own name; symbolic links inside are followed only when `follow`. -/
def filesUnder (follow : Bool) : Nat → String → Prog (List String)
  | 0, _ => pure []
  | fuel + 1, dir => do
    match ← Prog.ask (.listDir dir) with
    | .error _ => pure []
    | .ok names =>
      let mut found : List String := []
      for n in names do
        let path := if dir.isEmpty then n else if dir.endsWith "/" then dir ++ n else dir ++ "/" ++ n
        match ← Prog.ask (.stat (if dir.isEmpty then "./" ++ n else path) follow) with
        | .ok info =>
          if info.kind = .directory then found := found ++ (← filesUnder follow fuel path)
          else if info.kind = .symlink then pure ()
          else found := found ++ [path]
        | .error _ => found := found ++ [path]
      pure found

/-- `grep`: the lines of each input that the patterns select. -/
def grep (argv : List String) : Prog Nat := do
  let called := argv.headD "grep"
  match options grepOptions (argv.drop 1) with
  | .error e =>
    complain called e.text
    Prog.putStr 2 "Usage: grep [OPTION]... PATTERNS [FILE]...\nTry 'grep --help' for more information.\n"
    pure 2
  | .ok p =>
    -- context lengths are checked as the options are read
    let badContext := p.opts.find? fun (c, v) =>
      (c = 'A' || c = 'B' || c = 'C') && (contextLength v).isNone
    if let some (_, v) := badContext then
      complain called (v ++ ": invalid context length argument")
      return 2
    let given := p.args 'e'
    let mut fromFiles : List String := []
    let mut bad := false
    for f in p.args 'f' do
      match ← readInput f with
      | .ok d => fromFiles := fromFiles ++ (lines d).1.map text
      | .error e =>
        fileError called f e
        bad := true
    if bad then return 2
    let (patterns, files) :=
      if given.isEmpty && (p.args 'f').isEmpty then
        match p.operands with
        | pat :: rest => (some (pat.splitOn "\n"), rest)
        | [] => (none, [])
      else (some ((given.flatMap (·.splitOn "\n")) ++ fromFiles), p.operands)
    match patterns with
    | none =>
      Prog.putStr 2 "Usage: grep [OPTION]... PATTERNS [FILE]...\nTry 'grep --help' for more information.\n"
      pure 2
    | some pats =>
      match grepPattern (p.has 'E') (p.has 'F') pats with
      | .error msg =>
        complain called msg
        pure 2
      | .ok r =>
        let mode : GrepMode := ⟨p.has 'v', p.has 'x', p.has 'w', p.has 'i' || p.has 'y'⟩
        let limit : Option Nat := (p.arg? 'm').bind fun m =>
          match m.toList with
          | '-' :: _ => none
          | _ => m.toNat?
        if limit = some 0 && ((p.opts.filter fun (c, _) => c = 'l' || c = 'L').getLast?).map (·.1) != some 'L' then
          return 1
        let recursive := p.has 'r' || p.has 'R'
        -- each input, and whether it was found under a directory operand
        let operands := if files.isEmpty then (if recursive then [""] else ["-"]) else files
        let mut inputs : List (String × Bool) := []
        for f in operands do
          if recursive && f ≠ "-" then
            match ← Prog.ask (.stat (if f.isEmpty then "." else f) true) with
            | .ok info =>
              if info.kind = .directory then
                inputs := inputs ++ (← filesUnder (p.has 'R') treeDepth f).map (·, true)
              else inputs := inputs ++ [(f, false)]
            | .error _ => inputs := inputs ++ [(f, false)]
          else inputs := inputs ++ [(f, false)]
        let many := operands.length > 1
        let namedFor (found : Bool) : Bool :=
          !p.has 'h' && (p.has 'H' || many || (recursive && found))
        let named := namedFor false
        let around := (p.arg? 'C').bind contextLength
        let layout : GrepLayout := {
          named := named, numbers := p.has 'n', offsets := p.has 'b', only := p.has 'o',
          invert := p.has 'v',
          before := ((p.arg? 'B').bind contextLength).orElse fun _ => around,
          after := ((p.arg? 'A').bind contextLength).orElse fun _ => around,
          separator := if p.has noGroupSeparatorLetter then none
            else some ((p.arg? groupSeparatorLetter).getD "--"),
          nullName := p.has 'Z', eol := if p.has 'z' then 0 else 10 }
        let nameEnd : String := if p.has 'Z' then "\x00" else "\n"
        -- of -l and -L the last given counts
        let listing := ((p.opts.filter fun (c, _) => c = 'l' || c = 'L').getLast?).map (·.1)
        let mut status := 1
        let mut failed := false
        let mut used := false
        for (f, found) in inputs do
          let named := namedFor found
          let layout : GrepLayout := { layout with named := named }
          match ← readInput f with
          | .error e =>
            if !p.has 's' then fileError called f e
            failed := true
          | .ok d =>
            let shownName := if f = "-" then (p.arg? '\x16').getD "(standard input)" else f
            let binary := !p.has 'a' && !p.has 'z' && d.data.contains 0
            -- in a binary input NUL bytes end lines too
            let ls := if binary then grepLines layout.eol (ByteArray.mk (d.data.map fun b => if b = 0 then 10 else b))
              else grepLines layout.eol d
            let select (i : Nat) : Bool :=
              match ls[i]? with
              | some l => (mode.firstMatch r l.bytes 0).isSome != mode.invert
              | none => false
            let print (i : Nat) (l : GrepLine) (selected : Bool) : ByteArray :=
              layout.printLine mode r shownName i l selected
            let result := layout.printAll ls select print limit used
            let count := result.count
            if count > 0 then status := 0
            if p.has 'q' then
              if count > 0 then return 0
            else if listing = some 'l' then
              if count > 0 then Prog.putStr 1 (shownName ++ nameEnd)
            else if listing = some 'L' then
              if count = 0 then Prog.putStr 1 (shownName ++ nameEnd)
            else if p.has 'c' then
              Prog.putStr 1 ((if named then shownName ++ (if p.has 'Z' then "\x00" else ":") else "") ++
                toString count ++ "\n")
            else if binary then
              if count > 0 then complain called (shownName ++ ": binary file matches")
              used := result.used
            else
              Prog.put 1 result.out
              used := result.used
        pure (if failed then 2 else status)

end Tool

end JobControl.Host
