import JobControl.Host.Tools.Utility

/-!
# Utilities: cut

`cut` prints chosen parts of each line: bytes with `-b`, characters with `-c` (bytes, in the C
locale), or fields with `-f`, separated by the `-d` byte (a tab by default). A list is made of
positions `N`, ranges `N-M`, `N-` and `-M`, separated by commas; positions count from 1 and the
parts are printed in order of the line, each once.

A line without the separator is printed whole with `-f`, unless `-s`. Every printed line ends
with a newline (a NUL byte with `-z`, which also ends the input lines).

`--complement` chooses the positions the list leaves out. `--output-delimiter` joins the chosen
fields; with bytes it stands before each chosen byte that starts a range of the list, the
ranges sorted and those that overlap merged (ranges that only touch stay apart).
-/

namespace JobControl.Host

open Sys

namespace Tool

/-- A range of positions, from `lo` to `hi` (none: to the end). -/
structure Span where
  lo : Nat
  hi : Option Nat

/-- Whether a span holds a position. -/
def Span.holds (s : Span) (i : Nat) : Bool :=
  s.lo ≤ i && s.hi.all (i ≤ ·)

/-- Where the reading of a list of positions is: the start of the range being read, the number
being read, whether a number came before and after a `-`, and whether a `-` was seen. -/
structure ListScan where
  initial : Nat := 1
  value : Nat := 0
  left : Bool := false
  right : Bool := false
  dash : Bool := false
  /-- The digits of the number being read, for the complaint about a large one. -/
  digits : List Char := []

/-- The largest position that can be written. -/
def positionLimit : Nat := Nat.pow 2 64 - 1

/-- Reads a list of positions character by character: numbers and ranges `N-M`, `N-` and `-M`,
separated by commas or blanks. `positions` chooses the wording of complaints (bytes or
characters rather than fields). -/
def readSpansFrom (positions : Bool) : Nat → List Char → ListScan → List Span → Except String (List Span)
  | 0, _, _, acc => .ok acc.reverse
  | fuel + 1, cs, st, acc =>
    let numbered := if positions then "byte/character positions are numbered from 1"
      else "fields are numbered from 1"
    match cs with
    | '-' :: rest =>
      if st.dash then .error (if positions then "invalid byte or character range" else "invalid field range")
      else if st.left && st.value = 0 then .error numbered
      else
        let st' : ListScan := { st with dash := true, initial := if st.left then st.value else 1, value := 0, digits := [] }
        readSpansFrom positions fuel rest st' acc
    | c :: rest =>
      if c = ',' || c = ' ' || c = '\t' then
        match closeItem st with
        | .error e => .error e
        | .ok span => readSpansFrom positions fuel rest {} (span :: acc)
      else if c.isDigit then
        let value := st.value * 10 + (c.toNat - '0'.toNat)
        let digits := st.digits ++ [c]
        if value ≥ positionLimit then
          let bad := String.ofList (digits ++ rest.takeWhile Char.isDigit)
          .error ((if positions then "byte/character offset " else "field number ") ++ quote bad ++ " is too large")
        else
          let st' : ListScan := { st with value := value, digits := digits, right := st.right || st.dash, left := st.left || !st.dash }
          readSpansFrom positions fuel rest st' acc
      else
        .error ((if positions then "invalid byte/character position " else "invalid field value ") ++
          quote (String.ofList (c :: rest)))
    | [] =>
      match closeItem st with
      | .error e => .error e
      | .ok span => .ok (span :: acc).reverse
where
  /-- Ends the item being read at a separator or at the end of the list. -/
  closeItem (st : ListScan) : Except String Span :=
    if st.dash then
      if !st.left && !st.right then .error "invalid range with no endpoint: -"
      else if !st.right then .ok ⟨st.initial, none⟩
      else if st.value < st.initial then .error "invalid decreasing range"
      else .ok ⟨st.initial, some st.value⟩
    else if st.value = 0 then
      .error (if positions then "byte/character positions are numbered from 1" else "fields are numbered from 1")
    else .ok ⟨st.value, some st.value⟩

/-- Reads a list of positions, or the complaint about it. -/
def readSpans (positions : Bool) (list : String) : Except String (List Span) :=
  readSpansFrom positions (list.length + 1) list.toList {} []

/-- The letter that stands for `--complement`, which has no short form. -/
def complementLetter : Char := '\x01'

/-- The letter that stands for `--output-delimiter`, which has no short form. -/
def outputDelimiterLetter : Char := '\x02'

/-- The options of `cut`. -/
def cutOptions : OptSpec where
  flags := ['s', 'n', 'z', complementLetter]
  withArg := ['b', 'c', 'f', 'd', outputDelimiterLetter]
  longs := [("bytes", 'b'), ("characters", 'c'), ("fields", 'f'), ("delimiter", 'd'),
    ("only-delimited", 's'), ("output-delimiter", outputDelimiterLetter),
    ("complement", complementLetter), ("zero-terminated", 'z'), ("help", helpLetter),
    ("version", versionLetter)]

/-- Inserts a span into spans ordered by their start, after those that start at or before it. -/
def insertSpan (s : Span) : List Span → List Span
  | [] => [s]
  | t :: ts => if s.lo < t.lo then s :: t :: ts else t :: insertSpan s ts

/-- The end of a span as a number, with no end past every position. -/
def Span.last (s : Span) (top : Nat) : Nat :=
  s.hi.getD top

/-- Merges ordered spans that overlap (not those that only touch): a span that starts within
the one before it is swallowed by it. The merged spans are kept last first. -/
def mergeInto (top : Nat) (merged : List Span) (s : Span) : List Span :=
  match merged with
  | m :: ms =>
    if s.lo ≤ m.last top then
      ⟨m.lo, if m.hi.isNone || s.hi.isNone then none else some (max (m.last top) (s.last top))⟩ :: ms
    else s :: m :: ms
  | [] => [s]

/-- Merges spans ordered by their start. -/
def mergeSpans (top : Nat) (spans : List Span) : List Span :=
  (spans.foldl (mergeInto top) []).reverse

/-- The positions that ordered, merged spans leave out, as spans. -/
def complementSpans (top : Nat) (spans : List Span) : List Span :=
  match spans with
  | [] => [⟨1, none⟩]
  | first :: _ =>
    let before := if first.lo > 1 then [⟨1, some (first.lo - 1)⟩] else []
    let between := (spans.zip spans.tail).filterMap fun (a, b) =>
      if a.last top + 1 = b.lo then none else some (⟨a.last top + 1, some (b.lo - 1)⟩ : Span)
    let after := match spans.getLast? with
      | some l => match l.hi with
        | some h => [⟨h + 1, none⟩]
        | none => []
      | none => []
    before ++ between ++ after

/-- The chosen bytes of a line; with an output delimiter, it goes before each byte that starts
a span, once something was printed. -/
def cutBytes (spans : List Span) (outDelim : Option ByteArray) (line : List UInt8) : ByteArray :=
  let (out, _) := line.zipIdx.foldl (fun (acc : ByteArray × Bool) (b, i) =>
    let pos := i + 1
    if spans.any (·.holds pos) then
      let out := match outDelim with
        | some d => if acc.2 && spans.any (·.lo = pos) then acc.1 ++ d else acc.1
        | none => acc.1
      (out.push b, true)
    else acc) (ByteArray.empty, false)
  out

/-- `cut`: chosen bytes, characters or fields of each line. -/
def cut (argv : List String) : Prog Nat := do
  let called := argv.headD "cut"
  match options cutOptions (argv.drop 1) with
  | .error e =>
    complain called (e.message called)
    pure 1
  | .ok p =>
    let hint := tryHelp called
    -- the options are checked in the order they were given
    let problem := p.opts.foldl (fun (acc : Option String × Bool) (c, v) =>
      match acc with
      | (some e, seen) => (some e, seen)
      | (none, seen) =>
        if c = 'b' || c = 'c' || c = 'f' then
          if seen then (some "only one list may be specified", seen) else (none, true)
        else if c = 'd' && v.toUTF8.size > 1 then (some "the delimiter must be a single character", seen)
        else (none, seen)) (none, false)
    if let some e := problem.1 then
      complain called (e ++ hint)
      return 1
    let fields := p.has 'f'
    let list := ((p.arg? 'b').orElse fun _ => (p.arg? 'c').orElse fun _ => p.arg? 'f')
    let delim := p.arg? 'd'
    if list.isNone then
      complain called ("you must specify a list of bytes, characters, or fields" ++ hint)
      return 1
    let list := list.getD ""
    if delim.isSome && !fields then
      complain called ("an input delimiter may be specified only when operating on fields" ++ hint)
      return 1
    if p.has 's' && !fields then
      complain called ("suppressing non-delimited lines makes sense\n\tonly when operating on fields" ++ hint)
      return 1
    -- an empty delimiter is the NUL byte
    let sepByte : UInt8 := match delim with
      | some d => (d.toUTF8.toList.head?).getD 0
      | none => 9
    let eol : UInt8 := if p.has 'z' then 0 else 10
    match readSpans (!fields) list with
    | .error msg =>
      complain called (msg ++ hint)
      pure 1
    | .ok spans =>
      let top := spans.foldl (fun m s => max m (max s.lo (s.hi.getD 0))) 0 + 1
      let ordered := mergeSpans top (spans.foldl (fun acc s => insertSpan s acc) [])
      let chosen := if p.has complementLetter then complementSpans top ordered else ordered
      let outDelim := (p.arg? outputDelimiterLetter).map fun o =>
        if o.isEmpty then ByteArray.mk #[0] else o.toUTF8
      let (ins, ok) ← inputs called p.operands
      for (_, d) in ins do
        let records := (d.toList.splitOn eol)
        -- a final terminator ends the last record rather than starting an empty one
        let records := if d.size > 0 && d.toList.getLast? = some eol then records.dropLast
          else if d.size = 0 then [] else records
        let out := records.foldl (fun (acc : ByteArray) bs =>
          if fields then
            if !bs.contains sepByte then
              if p.has 's' then acc else (acc ++ ByteArray.mk bs.toArray).push eol
            else
              let parts := (bs.splitOn sepByte).zipIdx.filter fun (_, i) => chosen.any (·.holds (i + 1))
              let glue := (outDelim.getD (ByteArray.mk #[sepByte])).toList
              let joined := (parts.map (·.1)).intersperse glue |>.flatten
              (acc ++ ByteArray.mk joined.toArray).push eol
          else (acc ++ cutBytes chosen outDelim bs).push eol) ByteArray.empty
        Prog.put 1 out
      pure (if ok then 0 else 1)

end Tool

end JobControl.Host
