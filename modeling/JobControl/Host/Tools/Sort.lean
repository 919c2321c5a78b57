import JobControl.Host.Tools.Utility
import JobControl.Host.Binary

/-!
# Utilities: sort

`sort` orders the lines of its inputs, as bytes in the C locale.

* A key (`-k F[.C][letters][,F[.C][letters]]`) is a stretch of each line between two positions:
  fields are separated by the `-t` byte, or else each field is a run of blanks and then
  non-blanks; `b` at either end skips the blanks there. `Tool.keyText` finds it.
* A key compares its text as bytes, with `d` and `i` leaving out some bytes and `f` folding
  case, or as a number (`n`), a floating number (`g`), a size with a unit (`h`), a month name
  (`M`) or a version (`V`); `r` reverses it. A key with no letters of its own takes those of
  the command; without keys, letters of the command make one key of the whole line.
* When the keys find two lines equal, the whole lines decide, as bytes (reversed by `-r`),
  unless `-s` or `-u`. `-u` keeps the first of each run of equal lines.
* `-c` reports the first line out of order, `-C` only says so by the status; `-m` merges inputs
  that are already in order; `-z` ends lines with NUL bytes.
-/

namespace JobControl.Host

open Sys

namespace Tool

/-- Whether a byte separates fields for `sort`: a space, a tab or a newline. -/
def sortBlank (b : UInt8) : Bool :=
  b = 32 || b = 9 || b = 10

/-- Whether a byte is a decimal digit. -/
def isDigitByte (b : UInt8) : Bool :=
  48 ≤ b && b ≤ 57

/-- Whether a byte is a letter or a digit. -/
def isAlnumByte (b : UInt8) : Bool :=
  isDigitByte b || (65 ≤ b && b ≤ 90) || (97 ≤ b && b ≤ 122)

/-- Compares bytes in order; a list before the longer ones it starts. -/
def compareBytes : List UInt8 → List UInt8 → Ordering
  | [], [] => .eq
  | [], _ => .lt
  | _, [] => .gt
  | a :: as, b :: bs => if a < b then .lt else if b < a then .gt else compareBytes as bs

/-! ## Orders -/

/-- How a key orders its text: the letters `b d f g h i M n R r V` of a key or of the command. -/
structure KeyOrder where
  /-- `b` at the start of a key: blanks before the start are skipped. -/
  skipStart : Bool := false
  /-- `b` at the end of a key: blanks before the end position are skipped. -/
  skipEnd : Bool := false
  /-- `d`: only letters, digits and blanks count. -/
  dictionary : Bool := false
  /-- `i`: only printable bytes count. -/
  printable : Bool := false
  /-- `f`: lower case letters count as upper case. -/
  fold : Bool := false
  numeric : Bool := false
  general : Bool := false
  human : Bool := false
  month : Bool := false
  version : Bool := false
  random : Bool := false
  reverse : Bool := false

/-- Adds one ordering letter; `start` and `stop` say which ends of a key `b` applies to. -/
def KeyOrder.add (start stop : Bool) (o : KeyOrder) : Char → Option KeyOrder
  | 'b' => some { o with skipStart := o.skipStart || start, skipEnd := o.skipEnd || stop }
  | 'd' => some { o with dictionary := true }
  | 'f' => some { o with fold := true }
  | 'g' => some { o with general := true }
  | 'h' => some { o with human := true }
  | 'i' => some { o with printable := true }
  | 'M' => some { o with month := true }
  | 'n' => some { o with numeric := true }
  | 'R' => some { o with random := true }
  | 'r' => some { o with reverse := true }
  | 'V' => some { o with version := true }
  | _ => none

/-- Reads ordering letters from the front of a text: the order and the rest. -/
def KeyOrder.read (start stop : Bool) : KeyOrder → List Char → KeyOrder × List Char
  | o, [] => (o, [])
  | o, c :: cs =>
    match o.add start stop c with
    | some o' => KeyOrder.read start stop o' cs
    | none => (o, c :: cs)

/-- Whether an order compares text as it is: no letter but perhaps `r`. -/
def KeyOrder.plain (o : KeyOrder) : Bool :=
  !(o.skipStart || o.skipEnd || o.dictionary || o.printable || o.fold || o.numeric || o.general ||
    o.human || o.month || o.version || o.random)

/-- How many ways of comparing an order asks for; more than one cannot go together. -/
def KeyOrder.ways (o : KeyOrder) : Nat :=
  [o.numeric, o.general, o.human, o.month,
    o.version || o.random || o.dictionary || o.printable].count true

/-- The letters of an order but `b` and `r`, as the complaint about options that cannot go
together lists them. -/
def KeyOrder.letters (o : KeyOrder) : String :=
  String.ofList ((([('d', o.dictionary), ('f', o.fold), ('g', o.general), ('h', o.human),
    ('i', o.printable && !o.dictionary), ('M', o.month), ('n', o.numeric), ('R', o.random),
    ('V', o.version)] : List (Char × Bool)).filter (·.2)).map (·.1))

/-! ## Keys -/

/-- A key: `start` fields and then `startChar` bytes are skipped to find its start; it ends
after field `stop` (counting from 0), or `stopChar` bytes into it, or at the end of the line. -/
structure SortKey where
  start : Nat
  startChar : Nat
  stop : Option Nat
  stopChar : Nat
  order : KeyOrder

/-- Reads a count in a key position: blanks and a `+`, then decimal digits; the value and the
rest, none without digits. -/
def keyCount (cs : List Char) : Option (Nat × List Char) :=
  let cs := cs.dropWhile fun c => c = ' ' || c = '\t' || c = '\n' || c = '\r' || c = '\x0b' || c = '\x0c'
  let cs := match cs with
    | '+' :: r => r
    | r => r
  let ds := cs.takeWhile Char.isDigit
  if ds.isEmpty then none
  else some (ds.foldl (fun n c => n * 10 + (c.toNat - '0'.toNat)) 0, cs.drop ds.length)

/-- Reads a `-k` argument, or the complaint about it. -/
def parseKey (spec : String) : Except String SortKey := do
  let invalid (why : String) : String := why ++ ": invalid field specification " ++ quote spec
  let count (what : String) (cs : List Char) : Except String (Nat × List Char) :=
    match keyCount cs with
    | some r => .ok r
    | none => .error (what ++ ": invalid count at start of " ++ quote (String.ofList cs))
  let (f, rest) ← count "invalid number at field start" spec.toList
  if f = 0 then throw (invalid "field number is zero")
  let (c, rest) ← match rest with
    | '.' :: r => do
      let (c, r) ← count "invalid number after '.'" r
      if c = 0 then throw (invalid "character offset is zero")
      pure (c - 1, r)
    | r => pure (0, r)
  let (order, rest) := KeyOrder.read true false {} rest
  match rest with
  | [] => pure ⟨f - 1, c, none, 0, order⟩
  | ',' :: r =>
    let (g, r) ← count "invalid number after ','" r
    if g = 0 then throw (invalid "field number is zero")
    let (e, r) ← match r with
      | '.' :: r' => count "invalid number after '.'" r'
      | r' => pure (0, r')
    let (order, r) := KeyOrder.read false true order r
    if r.isEmpty then pure ⟨f - 1, c, some (g - 1), e, order⟩
    else throw (invalid "stray character in field spec")
  | _ => throw (invalid "stray character in field spec")

/-- How many bytes of a line `n` fields take: with a separator byte, each field ends after its
separator; otherwise each is a run of blanks and then non-blanks. -/
def fieldsLength (tab : Option UInt8) : Nat → List UInt8 → Nat
  | 0, _ => 0
  | _ + 1, [] => 0
  | n + 1, l@(_ :: _) =>
    match tab with
    | some t =>
      let field := l.takeWhile (· ≠ t)
      match l.drop field.length with
      | [] => field.length
      | _ :: r => field.length + 1 + fieldsLength tab n r
    | none =>
      let blanks := l.takeWhile sortBlank
      let l' := l.drop blanks.length
      let word := l'.takeWhile (!sortBlank ·)
      blanks.length + word.length + fieldsLength tab n (l'.drop word.length)

/-- How many bytes of a line come before the end of `n` fields, when the end position is to
be followed by `more` bytes: the separator after the last field counts only then. -/
def stopLength (tab : Option UInt8) (more : Bool) : Nat → List UInt8 → Nat
  | 0, _ => 0
  | _ + 1, [] => 0
  | n + 1, l@(_ :: _) =>
    match tab with
    | some t =>
      let field := l.takeWhile (· ≠ t)
      match l.drop field.length with
      | [] => field.length
      | _ :: r =>
        if n > 0 || more then field.length + 1 + stopLength tab more n r else field.length
    | none =>
      let blanks := l.takeWhile sortBlank
      let l' := l.drop blanks.length
      let word := l'.takeWhile (!sortBlank ·)
      blanks.length + word.length + stopLength tab more n (l'.drop word.length)

/-- The text of a line that a key covers; a key that ends before it starts is empty. -/
def keyText (tab : Option UInt8) (k : SortKey) (line : List UInt8) : List UInt8 :=
  let len := line.length
  let begin := fieldsLength tab k.start line
  let begin := if k.order.skipStart then begin + ((line.drop begin).takeWhile sortBlank).length
    else begin
  let begin := min len (begin + k.startChar)
  let limit := match k.stop with
    | none => len
    | some e =>
      let words := if k.stopChar = 0 then e + 1 else e
      let pos := stopLength tab (k.stopChar ≠ 0) words line
      if k.stopChar = 0 then pos
      else
        let pos := if k.order.skipEnd then pos + ((line.drop pos).takeWhile sortBlank).length else pos
        min len (pos + k.stopChar)
  (line.drop begin).take (limit - begin)

/-! ## Comparing key texts -/

/-- The number at the front of a text, after blanks: whether it is negative, its integer digits
without leading zeros, and its fraction digits without trailing zeros. No number reads as zero,
and zero is never negative. -/
def numberParts (key : List UInt8) : Bool × List UInt8 × List UInt8 :=
  let k := key.dropWhile sortBlank
  let (neg, k) := match k with
    | 45 :: r => (true, r)
    | r => (false, r)
  let ints := (k.takeWhile isDigitByte).dropWhile (· = 48)
  let rest := k.dropWhile isDigitByte
  let frac := match rest with
    | 46 :: r => ((r.takeWhile isDigitByte).reverse.dropWhile (· = 48)).reverse
    | _ => []
  (neg && !(ints.isEmpty && frac.isEmpty), ints, frac)

/-- Compares two texts by the numbers at their fronts. -/
def compareNumbers (a b : List UInt8) : Ordering :=
  let (na, ia, fa) := numberParts a
  let (nb, ib, fb) := numberParts b
  let magnitude : Ordering :=
    if ia.length < ib.length then .lt
    else if ia.length > ib.length then .gt
    else match compareBytes ia ib with
      | .eq => compareBytes fa fb
      | o => o
  match na, nb with
  | true, false => .lt
  | false, true => .gt
  | true, true => magnitude.swap
  | false, false => magnitude

/-- Compares two texts as floating numbers: texts without a number come first, then those
that are not a number (`-nan` before `nan`), then the numbers by value. -/
def compareFloats (a b : List UInt8) : Ordering :=
  let read (k : List UInt8) := Binary.read 64 (k.map fun x => Char.ofNat x.toNat)
  match read a, read b with
  | none, none => .eq
  | none, some _ => .lt
  | some _, none => .gt
  | some (x, _, _), some (y, _, _) =>
    match Binary.compareValues x y with
    | some o => o
    | none =>
      match x, y with
      | .nan nx, .nan ny => if nx == ny then .eq else if nx then .lt else .gt
      | .nan _, _ => .lt
      | _, _ => .gt

/-- The order of a unit letter: `K` (or `k`) 1, `M` 2, `G` 3, `T` 4, `P` 5, `E` 6, `Z` 7,
`Y` 8, `R` 9, `Q` 10; any other byte 0. -/
def unitRank (b : UInt8) : Int :=
  if b = 107 then 1
  else match "KMGTPEZYRQ".toList.idxOf? (Char.ofNat b.toNat) with
    | some i => i + 1
    | none => 0

/-- Reads the digits of a number, going on after each point: whether a digit other than 0
was seen, and the byte after the number. -/
def unitScan : List UInt8 → Bool × Option UInt8
  | [] => (false, none)
  | b :: r =>
    if isDigitByte b then
      let (nonzero, unit) := unitScan r
      (nonzero || b ≠ 48, unit)
    else if b = 46 then unitScan r
    else (false, some b)

/-- The order of magnitude of a size: its unit's order, negative for a negative size, and 0 for
a zero one. -/
def unitOrder (key : List UInt8) : Int :=
  let (neg, rest) := match key with
    | 45 :: r => (true, r)
    | r => (false, r)
  let (nonzero, unit) := unitScan rest
  let order := if nonzero then (unit.map unitRank).getD 0 else 0
  if neg then -order else order

/-- Compares two texts as sizes: by the order of their units, then as numbers. -/
def compareSizes (a b : List UInt8) : Ordering :=
  let a := a.dropWhile sortBlank
  let b := b.dropWhile sortBlank
  match Ord.compare (unitOrder a) (unitOrder b) with
  | .eq => compareNumbers a b
  | o => o

/-- The month a text starts with, after blanks, as the first three letters of its English name
in either case: 1 to 12, and 0 for none. -/
def monthOf (key : List UInt8) : Nat :=
  let k := ((key.dropWhile sortBlank).take 3).map fun x => if 97 ≤ x && x ≤ 122 then x - 32 else x
  let names := ["JAN", "FEB", "MAR", "APR", "MAY", "JUN", "JUL", "AUG", "SEP", "OCT", "NOV", "DEC"]
  match names.idxOf? (String.ofList (k.map fun x => Char.ofNat x.toNat)) with
  | some i => i + 1
  | none => 0

/-- The rank of a byte of a version outside its digits: the end first but for `~`, which
comes before it, then letters, then the other bytes. -/
def versionRank : Option UInt8 → Int
  | none => -1
  | some c =>
    if isDigitByte c then 0
    else if (65 ≤ c && c ≤ 90) || (97 ≤ c && c ≤ 122) then c.toNat
    else if c = 126 then -2
    else c.toNat + 256

/-- Compares the parts of two versions that are not digits, byte by byte: the result, and the
rests from their first digits. -/
def compareVersionText : Nat → List UInt8 → List UInt8 → Ordering × List UInt8 × List UInt8
  | 0, a, b => (.eq, a, b)
  | fuel + 1, a, b =>
    let textA := a.head?.any (!isDigitByte ·)
    let textB := b.head?.any (!isDigitByte ·)
    if !(textA || textB) then (.eq, a, b)
    else
      let ra := versionRank a.head?
      let rb := versionRank b.head?
      if ra ≠ rb then (Ord.compare ra rb, a, b)
      else compareVersionText fuel a.tail b.tail

/-- Compares two versions: runs of non-digits byte by byte by `versionRank`, runs of digits
as numbers, in turn. -/
def compareVersionParts : Nat → List UInt8 → List UInt8 → Ordering
  | 0, _, _ => .eq
  | fuel + 1, a, b =>
    if a.isEmpty && b.isEmpty then .eq
    else
      match compareVersionText (a.length + b.length + 1) a b with
      | (.eq, a, b) =>
        let a := a.dropWhile (· = 48)
        let b := b.dropWhile (· = 48)
        let da := a.takeWhile isDigitByte
        let db := b.takeWhile isDigitByte
        let common := min da.length db.length
        let first := compareBytes (da.take common) (db.take common)
        if da.length > db.length then .gt
        else if da.length < db.length then .lt
        else if first ≠ .eq then first
        else compareVersionParts fuel (a.drop da.length) (b.drop db.length)
      | (o, _, _) => o

/-- Whether a byte may start a piece of a file suffix after its point: a letter or `~`. -/
def isSuffixHead (c : UInt8) : Bool :=
  (65 ≤ c && c ≤ 90) || (97 ≤ c && c ≤ 122) || c = 126

/-- Reads pieces of a file suffix, each a point, a letter or `~`, then letters, digits and `~`:
the position after them and the bytes left. -/
def suffixPieces : Nat → List UInt8 → Nat → Nat × List UInt8
  | 0, l, i => (i, l)
  | fuel + 1, l, i =>
    match l with
    | 46 :: h :: more =>
      if isSuffixHead h then
        let body := more.takeWhile fun c => isAlnumByte c || c = 126
        suffixPieces fuel (more.drop body.length) (i + 2 + body.length)
      else (i, l)
    | _ => (i, l)

/-- The length of a name without its suffix: the pieces of suffix that run to the end are cut,
`kept` being the length up to the last byte that is not in such pieces. -/
def stemLength : Nat → List UInt8 → Nat → Nat → Nat
  | 0, _, _, kept => kept
  | _ + 1, [], _, kept => kept
  | fuel + 1, _ :: rest, i, _ =>
    let (j, l) := suffixPieces (rest.length + 1) rest (i + 1)
    stemLength fuel l j (i + 1)

/-- The length of a name without its suffix. -/
def suffixStart (s : List UInt8) : Nat :=
  stemLength (s.length + 1) s 0 0

/-- Compares two file names as versions: empty names first, then `.`, then `..`, then other
names starting with a point; the names without suffixes decide, and else the whole names. -/
def compareVersions (a b : List UInt8) : Ordering :=
  if a.isEmpty then (if b.isEmpty then .eq else .lt)
  else if b.isEmpty then .gt
  else
    let special : Option Ordering :=
      match a.head?, b.head? with
      | some 46, some 46 =>
        let dot (s : List UInt8) := s = [46]
        let dotdot (s : List UInt8) := s = [46, 46]
        if dot a then some (if dot b then .eq else .lt)
        else if dot b then some .gt
        else if dotdot a then some (if dotdot b then .eq else .lt)
        else if dotdot b then some .gt
        else none
      | some 46, _ => some .lt
      | _, some 46 => some .gt
      | _, _ => none
    match special with
    | some o => o
    | none =>
      let pa := suffixStart a
      let pb := suffixStart b
      let fuel := a.length + b.length + 2
      match compareVersionParts fuel (a.take pa) (b.take pb) with
      | .eq => if pa = a.length && pb = b.length then .eq else compareVersionParts fuel a b
      | o => o

/-- Compares two lines by one key. -/
def keyCompare (tab : Option UInt8) (k : SortKey) (a b : List UInt8) : Ordering :=
  let o := k.order
  let keep (x : UInt8) : Bool :=
    if o.dictionary then isAlnumByte x || sortBlank x
    else if o.printable then 32 ≤ x && x ≤ 126
    else true
  let prepare (t : List UInt8) : List UInt8 :=
    (t.filter keep).map fun x => if o.fold && 97 ≤ x && x ≤ 122 then x - 32 else x
  let ta := prepare (keyText tab k a)
  let tb := prepare (keyText tab k b)
  let diff :=
    if o.numeric then compareNumbers ta tb
    else if o.general then compareFloats ta tb
    else if o.human then compareSizes ta tb
    else if o.month then Ord.compare (monthOf ta) (monthOf tb)
    else if o.version then compareVersions ta tb
    else compareBytes ta tb
  if o.reverse then diff.swap else diff

/-- What decides the order of lines. -/
structure Ordered where
  keys : List SortKey
  tab : Option UInt8
  /-- `-r`: the whole lines compare in reverse. -/
  reverse : Bool
  /-- `-s` or `-u`: lines the keys find equal are equal. -/
  keysOnly : Bool

/-- Compares two lines: by the keys, then by the whole lines. -/
def Ordered.compare (s : Ordered) (a b : List UInt8) : Ordering :=
  let byKeys := s.keys.foldl (fun acc k => if acc = .eq then keyCompare s.tab k a b else acc) .eq
  if !s.keys.isEmpty && (byKeys != .eq || s.keysOnly) then byKeys
  else
    let d := compareBytes a b
    if s.reverse then d.swap else d

/-- Keeps the first line of each run of lines that compare equal to the line kept before. -/
def Ordered.firsts (s : Ordered) (ls : List (List UInt8)) : List (List UInt8) :=
  (ls.foldl (fun (acc : List (List UInt8)) l =>
    match acc with
    | prev :: _ => if s.compare prev l = .eq then acc else l :: acc
    | [] => [l]) []).reverse

/-- Merges ordered lists of lines: each time the least first line, from the earliest list on
a tie. -/
def Ordered.merge (s : Ordered) : Nat → List (List (List UInt8)) → List (List UInt8)
  | 0, _ => []
  | fuel + 1, lists =>
    let heads := lists.zipIdx.filterMap fun (l, i) => l.head?.map (·, i)
    match heads with
    | [] => []
    | first :: rest =>
      let (least, at_) := rest.foldl (fun (best : List UInt8 × Nat) (h, i) =>
        if s.compare h best.1 = .lt then (h, i) else best) first
      least :: s.merge fuel (lists.zipIdx.map fun (l, i) => if i = at_ then l.tail else l)

/-- The first line out of order, counting from 1: one that comes before the line above it, or
with `strict`, one that does not come after it. -/
def Ordered.disorder (s : Ordered) (strict : Bool) (ls : List (List UInt8)) :
    Option (Nat × List UInt8) :=
  let pairs := (ls.zip ls.tail).zipIdx
  (pairs.find? fun ((a, b), _) =>
    match s.compare a b with
    | .gt => true
    | .eq => strict
    | .lt => false).map fun ((_, b), i) => (i + 2, b)

/-- Cuts bytes into records ending at `eol`; a last record may lack it. -/
def records (eol : UInt8) (d : ByteArray) : List (List UInt8) :=
  if d.size = 0 then []
  else
    let pieces := d.toList.splitOn eol
    if d.toList.getLast? = some eol then pieces.dropLast else pieces

/-! ## The utility -/

/-- The letter standing for `--sort=WORD`. -/
def sortWordLetter : Char := '\x01'

/-- The options of `sort`. -/
def sortOptions : OptSpec where
  flags := ['b', 'c', 'C', 'd', 'f', 'g', 'h', 'i', 'M', 'm', 'n', 'R', 'r', 's', 'u', 'V', 'z', '\x03']
  withArg := ['k', 'o', 'S', 't', 'T', sortWordLetter, '\x02', '\x04', '\x05', '\x06', '\x07']
  longs := [("ignore-leading-blanks", 'b'), ("check", 'c'), ("compress-program", '\x02'),
    ("debug", '\x03'), ("dictionary-order", 'd'), ("ignore-case", 'f'), ("files0-from", '\x04'),
    ("general-numeric-sort", 'g'), ("ignore-nonprinting", 'i'), ("key", 'k'), ("merge", 'm'),
    ("month-sort", 'M'), ("numeric-sort", 'n'), ("human-numeric-sort", 'h'),
    ("version-sort", 'V'), ("random-sort", 'R'), ("random-source", '\x05'),
    ("sort", sortWordLetter), ("output", 'o'), ("reverse", 'r'), ("stable", 's'),
    ("batch-size", '\x06'), ("buffer-size", 'S'), ("field-separator", 't'),
    ("temporary-directory", 'T'), ("unique", 'u'), ("zero-terminated", 'z'),
    ("parallel", '\x07'), ("help", helpLetter), ("version", versionLetter)]
  optional := ['c']

/-- What the options of `sort` say, read in order: the order of the command, the keys, the
field separator and the kind of check; or the complaint that stops it. -/
structure SortSetup where
  order : KeyOrder := {}
  keys : List SortKey := []
  tab : Option UInt8 := none
  check : Option Char := none

/-- Reads one option of `sort` into the setup. -/
def SortSetup.take (s : SortSetup) : Char × String → Except String SortSetup
  | ('k', spec) => do
    let k ← parseKey spec
    pure { s with keys := s.keys ++ [k] }
  | ('t', t) =>
    match t.toUTF8.toList with
    | [] => .error "empty tab"
    | [b] =>
      if s.tab.any (· ≠ b) then .error "incompatible tabs" else .ok { s with tab := some b }
    | _ =>
      if t = "\\0" then
        if s.tab.any (· ≠ 0) then .error "incompatible tabs" else .ok { s with tab := some 0 }
      else .error ("multi-character tab " ++ quote t)
  | ('c', v) =>
    let kind := if v = "quiet" || v = "silent" then 'C' else 'c'
    if s.check.any (· ≠ kind) then .error "options '-cC' are incompatible"
    else .ok { s with check := some kind }
  | ('C', _) =>
    if s.check.any (· ≠ 'C') then .error "options '-cC' are incompatible"
    else .ok { s with check := some 'C' }
  | (c, v) =>
    let letter := if c = sortWordLetter then
        match v with
        | "general-numeric" => 'g'
        | "human-numeric" => 'h'
        | "month" => 'M'
        | "numeric" => 'n'
        | "random" => 'R'
        | "version" => 'V'
        | _ => ' '
      else c
    match s.order.add true true letter with
    | some o => .ok { s with order := o }
    | none => .ok s

/-- `sort`: the lines of all inputs in order. -/
def sort (argv : List String) : Prog Nat := do
  let called := argv.headD "sort"
  match options sortOptions (argv.drop 1) with
  | .error e =>
    complain called (e.message called)
    pure 2
  | .ok p =>
    match p.opts.foldlM SortSetup.take {} with
    | .error msg =>
      complain called msg
      pure 2
    | .ok setup =>
      -- keys without letters of their own take those of the command
      let keys := setup.keys.map fun k =>
        if k.order.plain && !k.order.reverse then { k with order := setup.order } else k
      let keys := if keys.isEmpty && !setup.order.plain then [⟨0, 0, none, 0, setup.order⟩] else keys
      match keys.find? (·.order.ways > 1) with
      | some k =>
        complain called ("options '-" ++ k.order.letters ++ "' are incompatible")
        pure 2
      | none =>
        let s : Ordered := ⟨keys, setup.tab, setup.order.reverse, p.has 's' || p.has 'u'⟩
        let eol : UInt8 := if p.has 'z' then 0 else 10
        let files := if p.operands.isEmpty then ["-"] else p.operands
        match setup.check with
        | some kind =>
          if files.length > 1 then
            complain called ("extra operand " ++ quoteFile files[1]! ++ " not allowed with -" ++ String.singleton kind)
            return 2
          if (p.arg? 'o').isSome then
            complain called ("options '-" ++ String.singleton kind ++ "o' are incompatible")
            return 2
          let file := files.headD "-"
          match ← readInput file with
          | .error e =>
            complain called ("open failed: " ++ file ++ ": " ++ e.description)
            pure 2
          | .ok d =>
            match s.disorder (p.has 'u') (records eol d) with
            | none => pure 0
            | some (n, line) =>
              if kind = 'c' then
                Prog.put 2 ((called ++ ": " ++ file ++ ":" ++ toString n ++ ": disorder: ").toUTF8 ++
                  (ByteArray.mk line.toArray).push eol)
              pure 1
        | none =>
          -- every input must be there before anything is read
          for f in files do
            if f ≠ "-" then
              if let .error e ← Prog.ask (.stat f true) then
                complain called ("cannot read: " ++ f ++ ": " ++ e.description)
                return 2
          if let some out := p.arg? 'o' then
            match ← Prog.ask (.openFile out (.write false false)) with
            | .ok fd => let _ ← Prog.ask (.close fd)
            | .error e =>
              complain called ("open failed: " ++ out ++ ": " ++ e.description)
              return 2
          let mut contents : List (List (List UInt8)) := []
          for f in files do
            match ← readInput f with
            | .ok d => contents := contents ++ [records eol d]
            | .error e =>
              complain called ("read failed: " ++ f ++ ": " ++ e.description)
              return 2
          let all := if p.has 'm' then s.merge (contents.foldl (· + ·.length) 0 + 1) contents
            else contents.flatten.mergeSort fun a b => s.compare a b != .gt
          let all := if p.has 'u' then s.firsts all else all
          let out := all.foldl (fun (acc : ByteArray) l => (acc ++ ByteArray.mk l.toArray).push eol)
            ByteArray.empty
          match p.arg? 'o' with
          | some file =>
            match ← Prog.ask (.openFile file (.write false true)) with
            | .ok fd =>
              Prog.put fd out
              let _ ← Prog.ask (.close fd)
              pure 0
            | .error e =>
              complain called ("open failed: " ++ file ++ ": " ++ e.description)
              pure 2
          | none =>
            Prog.put 1 out
            pure 0

end Tool

end JobControl.Host
