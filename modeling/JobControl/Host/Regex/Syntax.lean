import JobControl.Text.Unicode

/-!
# Regular expressions: syntax

POSIX regular expressions over the characters of UTF-8 text, basic (`grep`, `sed`) and extended (`grep -E`, `sed -E`),
with the GNU additions: `\|`, `\+` and `\?` in basic expressions, the word operators `\w`,
`\W`, `\s`, `\S`, `\b`, `\B`, `\<`, `\>`, and `\n`, `\t` for newline and tab.

* `Regex` is the expression tree over characters, given by their code points; a byte that
  starts no well-formed character is a unit of its own (`rawUnit`), above every code point;
  a bracket expression is a list of `Member`s;
* `Regex.read` reads a pattern, with the messages the GNU library gives for a bad one.

In a basic expression `^` is an anchor only at the start of a branch and `$` only at its end;
elsewhere they are plain characters, as is a `*` that starts a branch. A back reference may only
name a group that is already closed.
-/

namespace JobControl.Host

/-- A member of a bracket expression: a character, a range of characters, or a named class. -/
inductive Member
  | char (c : Nat)
  | range (lo hi : Nat)
  | named (cls : String)
  deriving Repr, BEq

/-- The unit of a byte that starts no well-formed character: above every code point, so that
it is in no class and equals only itself. -/
def rawUnit (b : UInt8) : Nat :=
  0x110000 + b.toNat

/-- Whether a unit is a byte that starts no character. -/
def isRaw (c : Nat) : Bool :=
  c ≥ 0x110000

/-- Whether a character is in a named class of the UTF-8 locale. -/
def classAdmits (cls : String) (c : Nat) : Bool :=
  if isRaw c then false
  else
    match cls with
    | "alpha" => Text.Unicode.isAlpha c
    | "digit" => Text.Unicode.isDigit c
    | "alnum" => Text.Unicode.isAlnum c
    | "upper" => Text.Unicode.isUpper c
    | "lower" => Text.Unicode.isLower c
    | "space" => Text.Unicode.isSpace c
    | "blank" => Text.Unicode.isBlank c
    | "punct" => Text.Unicode.isPunct c
    | "print" => Text.Unicode.isPrint c
    | "graph" => Text.Unicode.isGraph c
    | "cntrl" => Text.Unicode.isCntrl c
    | "xdigit" => Text.Unicode.isXDigit c
    | _ => false

/-- Whether a single byte is in a named class, for the utilities that read bytes one at a
time: in a UTF-8 locale only the ASCII bytes are characters. -/
def byteClassAdmits (cls : String) (b : UInt8) : Bool :=
  b < 128 && classAdmits cls b.toNat

/-- The class names a bracket expression may use. -/
def classNames : List String :=
  ["alpha", "digit", "alnum", "upper", "lower", "space", "blank", "punct", "print", "graph",
    "cntrl", "xdigit"]

/-- Whether a member admits a character. -/
def Member.admits : Member → Nat → Bool
  | .char c, u => c = u
  | .range lo hi, u => lo ≤ u && u ≤ hi
  | .named cls, u => classAdmits cls u

/-- Whether a character is a word character: a letter, a digit or `_`. -/
def isWordChar (c : Nat) : Bool :=
  classAdmits "alnum" c || c = 95

/-- The units of bytes from a place: each well-formed character, or a lone byte. -/
def unitsFrom (bs : ByteArray) (i : Nat) : List Nat :=
  if h : i < bs.size then
    match Text.charAt? bs i with
    | some (c, n) => c :: unitsFrom bs (i + max n 1)
    | none => rawUnit bs[i] :: unitsFrom bs (i + 1)
  else []
termination_by bs.size - i
decreasing_by all_goals omega

/-- The units of a list of bytes. -/
def unitsOf (bytes : List UInt8) : List Nat :=
  unitsFrom (ByteArray.mk bytes.toArray) 0

/-- The bytes of a unit: the UTF-8 of a character, or the lone byte. -/
def encodeUnit (c : Nat) : ByteArray :=
  if isRaw c then ByteArray.mk #[UInt8.ofNat (c - 0x110000)]
  else (String.singleton (Char.ofNat c)).toUTF8

/-- A name read from units, such as a class name. -/
def nameOf (units : List Nat) : String :=
  String.ofList (units.map Char.ofNat)

/-- A regular expression over characters. -/
inductive Regex
  /-- Matches the empty string. -/
  | empty
  /-- One character (or lone byte). -/
  | char (c : Nat)
  /-- Any character. -/
  | any
  /-- A character that the members admit (or, negated, do not admit). -/
  | oneOf (negated : Bool) (members : List Member)
  /-- The start of a line: of the text, or in multiline matching after a newline. -/
  | lineStart
  /-- The end of a line: of the text, or in multiline matching before a newline. -/
  | lineEnd
  /-- The start of the text. -/
  | textStart
  /-- The end of the text. -/
  | textEnd
  /-- A place between a word character and another character (or the edge). -/
  | wordEdge
  /-- A place that is not a word edge. -/
  | notWordEdge
  /-- A place where a word starts. -/
  | wordStart
  /-- A place where a word ends. -/
  | wordEnd
  /-- A numbered group, whose match can be referred back to. -/
  | group (index : Nat) (body : Regex)
  /-- The text the numbered group matched. -/
  | backref (index : Nat)
  /-- One expression, then another. -/
  | seq (first second : Regex)
  /-- One expression or another, the first preferred. -/
  | alt (left right : Regex)
  /-- At least `least` and at most `most` repetitions. -/
  | many (body : Regex) (least : Nat) (most : Option Nat)
  deriving Repr, Inhabited

/-- The number of nodes of an expression. -/
def Regex.size : Regex → Nat
  | .group _ r => r.size + 1
  | .seq a b => a.size + b.size + 1
  | .alt a b => a.size + b.size + 1
  | .many r _ _ => r.size + 1
  | _ => 1

/-- The largest lower bound of a repetition, which bounds the steps that match nothing. -/
def Regex.least : Regex → Nat
  | .group _ r => r.least
  | .seq a b => a.least + b.least
  | .alt a b => max a.least b.least
  | .many r n _ => n * (r.least + 1)
  | _ => 0

namespace Regex

/-- Where the reader is: the units left, the groups opened and those closed. -/
structure Reading where
  rest : List Nat
  opened : Nat
  closed : List Nat

/-- Reading a pattern, which may fail with a message. -/
abbrev Reader := StateT Reading (Except String)

/-- The bytes of a text. -/
def codes (s : String) : List UInt8 :=
  s.toUTF8.toList

/-- The message for a bracket expression without its end. -/
def unmatchedBracket : String := "Unmatched [, [^, [:, [., or [="

/-- Reads a decimal number at the front of units. -/
def number (bs : List Nat) : Option Nat × List Nat :=
  let ds := bs.takeWhile fun b => 48 ≤ b && b ≤ 57
  if ds.isEmpty then (none, bs)
  else (some (ds.foldl (fun n d => n * 10 + (d - 48)) 0), bs.drop ds.length)

/-- Reads the inside of `[:name:]`, `[=c=]` or `[.c.]` after its opening two bytes, up to the
closing pair. -/
def bracketName (close : Nat) : Nat → List Nat → List Nat → Option (List Nat × List Nat)
  | 0, _, _ => none
  | _ + 1, [], _ => none
  | fuel + 1, b :: rest, acc =>
    match rest with
    | 93 :: after => if b = close then some (acc.reverse, after) else bracketName close fuel rest (b :: acc)
    | _ => bracketName close fuel rest (b :: acc)

/-- Reads the members of a bracket expression after `[` and an optional `^`, through the
closing `]`. -/
def bracketMembers : Nat → Bool → List Nat → List Member → Except String (List Member × List Nat)
  | 0, _, _, _ => .error unmatchedBracket
  | _ + 1, _, [], _ => .error unmatchedBracket
  | fuel + 1, first, b :: rest, acc =>
    if b = 93 && !first then .ok (acc.reverse, rest)
    else
      -- one element: a character, or a bracketed name
      let element : Except String (Option Member × Option Nat × List Nat) :=
        match b, rest with
        | 91, 58 :: after =>
          match bracketName 58 (after.length + 1) after [] with
          | some (name, after') =>
            let n := nameOf name
            if classNames.contains n then .ok (some (.named n), none, after')
            else .error "Invalid character class name"
          | none => .error unmatchedBracket
        | 91, 61 :: after =>
          match bracketName 61 (after.length + 1) after [] with
          | some ([c], after') => .ok (none, some c, after')
          | some _ => .error "Invalid collation character"
          | none => .error unmatchedBracket
        | 91, 46 :: after =>
          match bracketName 46 (after.length + 1) after [] with
          | some ([c], after') => .ok (none, some c, after')
          | some _ => .error "Invalid collation character"
          | none => .error unmatchedBracket
        | _, _ => .ok (none, some b, rest)
      match element with
      | .error e => .error e
      | .ok (some m, _, after) => bracketMembers fuel false after (m :: acc)
      | .ok (none, none, after) => bracketMembers fuel false after acc
      | .ok (none, some lo, after) =>
        match after with
        | 45 :: hi :: after' =>
          if hi = 93 then bracketMembers fuel false (45 :: hi :: after') (.char lo :: acc)
          else
            let hiByte : Except String (Nat × List Nat) :=
              match hi, after' with
              | 91, 46 :: more =>
                match bracketName 46 (more.length + 1) more [] with
                | some ([c], more') => .ok (c, more')
                | _ => .error unmatchedBracket
              | _, _ => .ok (hi, after')
            match hiByte with
            | .error e => .error e
            | .ok (h, more) =>
              if h < lo then .error "Invalid range end"
              else bracketMembers fuel false more (.range lo h :: acc)
        | _ => bracketMembers fuel false after (.char lo :: acc)

/-- Reads a bracket expression after its `[`. -/
def bracket : Reader Regex := do
  let s ← get
  let (negated, rest) := match s.rest with
    | 94 :: r => (true, r)
    | r => (false, r)
  match bracketMembers (rest.length + 1) true rest [] with
  | .ok (members, after) =>
    set { s with rest := after }
    pure (.oneOf negated members)
  | .error e => throw e

/-- The expression an escaped character stands for outside brackets, if it is special. -/
def escaped (b : Nat) : Option Regex :=
  match b with
  | 119 => some (.oneOf false [.named "alnum", .char 95])
  | 87 => some (.oneOf true [.named "alnum", .char 95])
  | 115 => some (.oneOf false [.named "space"])
  | 83 => some (.oneOf true [.named "space"])
  | 98 => some .wordEdge
  | 66 => some .notWordEdge
  | 60 => some .wordStart
  | 62 => some .wordEnd
  | 96 => some .textStart
  | 39 => some .textEnd
  | 110 => some (.char 10)
  | 116 => some (.char 9)
  | _ => none

/-- Whether the units start an alternation bar. -/
def atBar (extended : Bool) (bs : List Nat) : Bool :=
  if extended then bs.head? = some 124 else [92, 124].isPrefixOf bs

/-- Whether the units start a closing parenthesis. -/
def atClose (extended : Bool) (bs : List Nat) : Bool :=
  if extended then bs.head? = some 41 else [92, 41].isPrefixOf bs

/-- Whether the units end a branch: the end, a bar, or (inside a group) a closing parenthesis. -/
def atBranchEnd (extended : Bool) (depth : Nat) (bs : List Nat) : Bool :=
  bs.isEmpty || atBar extended bs || (depth > 0 && atClose extended bs)

/-- Reads the bounds of an interval after its opening brace, through the closing one. -/
def interval (extended : Bool) (bs : List Nat) : Except String (Nat × Option Nat × List Nat) :=
  let (lo, rest) := number bs
  let (hi, rest, comma) := match rest with
    | 44 :: r => let (h, r') := number r; (h, r', true)
    | r => (lo, r, false)
  let closeLen := if extended then 1 else 2
  let closes := if extended then rest.head? = some 125 else [92, 125].isPrefixOf rest
  if !closes then
    .error (if rest.isEmpty || (!extended && !rest.contains 125) then "Unmatched \\\x7b" else "Invalid content of \\\x7b\\\x7d")
  else
    let least := lo.getD 0
    let most := if comma then hi else some least
    if lo.isNone && !comma then .error "Invalid content of \\\x7b\\\x7d"
    else if least > 32767 || (most.getD 0) > 32767 then .error "Regular expression too big"
    else match most with
      | some m => if m < least then .error "Invalid content of \\\x7b\\\x7d" else .ok (least, most, rest.drop closeLen)
      | none => .ok (least, none, rest.drop closeLen)

/-- Reads the repetition operators after an atom. -/
def repetitions (extended : Bool) (atom : Regex) : Nat → Reader Regex
  | 0 => pure atom
  | fuel + 1 => do
    let s ← get
    match s.rest with
    | 42 :: r =>
      set { s with rest := r }
      repetitions extended (.many atom 0 none) fuel
    | 43 :: r =>
      if extended then
        set { s with rest := r }
        repetitions extended (.many atom 1 none) fuel
      else pure atom
    | 63 :: r =>
      if extended then
        set { s with rest := r }
        repetitions extended (.many atom 0 (some 1)) fuel
      else pure atom
    | 123 :: r =>
      if extended && (r.head?.any fun b => (48 ≤ b && b ≤ 57) || b = 44) then
        match interval true r with
        | .ok (lo, hi, after) =>
          set { s with rest := after }
          repetitions extended (.many atom lo hi) fuel
        | .error e => throw e
      else pure atom
    | 92 :: 43 :: r =>
      if extended then pure atom
      else
        set { s with rest := r }
        repetitions extended (.many atom 1 none) fuel
    | 92 :: 63 :: r =>
      if extended then pure atom
      else
        set { s with rest := r }
        repetitions extended (.many atom 0 (some 1)) fuel
    | 92 :: 123 :: r =>
      if extended then pure atom
      else
        match interval false r with
        | .ok (lo, hi, after) =>
          set { s with rest := after }
          repetitions extended (.many atom lo hi) fuel
        | .error e => throw e
    | _ => pure atom

mutual

/-- Reads branches separated by bars. -/
def alternation (extended : Bool) (depth : Nat) : Nat → Reader Regex
  | 0 => throw "Regular expression too big"
  | fuel + 1 => do
    let first ← branch extended depth true .empty fuel
    let s ← get
    if atBar extended s.rest then
      set { s with rest := s.rest.drop (if extended then 1 else 2) }
      let more ← alternation extended depth fuel
      pure (.alt first more)
    else pure first

/-- Reads the pieces of one branch; `start` says whether nothing of it was read yet. -/
def branch (extended : Bool) (depth : Nat) (start : Bool) (acc : Regex) : Nat → Reader Regex
  | 0 => throw "Regular expression too big"
  | fuel + 1 => do
    let s ← get
    if atBranchEnd extended depth s.rest then pure acc
    else
      let atom ← piece extended depth start fuel
      let joined := match acc with
        | .empty => atom
        | _ => .seq acc atom
      -- a leading anchor still counts as the start for a following star
      let stillStart := start && (match atom with | .lineStart => !extended | _ => false)
      branch extended depth stillStart joined fuel

/-- Reads one atom and its repetition operators. -/
def piece (extended : Bool) (depth : Nat) (start : Bool) : Nat → Reader Regex
  | 0 => throw "Regular expression too big"
  | fuel + 1 => do
    let s ← get
    match s.rest with
    | [] => pure .empty
    | b :: r =>
      let plain (x : Regex) (after : List Nat) : Reader Regex := do
        set { s with rest := after }
        repetitions extended x (after.length + 1)
      if b = 46 then plain .any r
      else if b = 91 then do
        set { s with rest := r }
        let x ← bracket
        repetitions extended x ((← get).rest.length + 1)
      else if b = 94 && (extended || start) then do
        set { s with rest := r }
        pure .lineStart
      else if b = 36 && (extended || atBranchEnd extended depth r) then do
        set { s with rest := r }
        if extended then repetitions extended .lineEnd (r.length + 1) else pure .lineEnd
      else if b = 42 && start then plain (.char 42) r
      else if extended && (b = 43 || b = 63) && start then plain (.char b) r
      else if extended && b = 40 then openGroup extended r fuel
      else if extended && b = 123 && start then
        throw "Invalid preceding regular expression"
      else if b = 92 then
        match r with
        | [] => throw "Trailing backslash"
        | c :: r' =>
          if !extended && c = 40 then openGroup extended r' fuel
          else if !extended && c = 41 then throw "Unmatched ) or \\)"
          else if !extended && c = 123 && start then throw "Invalid preceding regular expression"
          else if 49 ≤ c && c ≤ 57 then
            let n := c - 48
            if s.closed.contains n then plain (.backref n) r'
            else throw "Invalid back reference"
          else match escaped c with
            | some x => plain x r'
            | none => plain (.char c) r'
      else plain (.char b) r

/-- Reads a group after its opening parenthesis. -/
def openGroup (extended : Bool) (after : List Nat) : Nat → Reader Regex
  | 0 => throw "Regular expression too big"
  | fuel + 1 => do
    let s ← get
    let index := s.opened + 1
    set { s with rest := after, opened := index }
    let body ← alternation extended 1 fuel
    let s' ← get
    if atClose extended s'.rest then
      let rest := s'.rest.drop (if extended then 1 else 2)
      set { s' with rest := rest, closed := index :: s'.closed }
      repetitions extended (.group index body) (rest.length + 1)
    else throw "Unmatched ( or \\("

end

/-- Reads a pattern given by its bytes, basic or extended: the expression and its number of
groups. -/
def read (extended : Bool) (bytes : List UInt8) : Except String (Regex × Nat) :=
  let pattern := unitsOf bytes
  match (alternation extended 0 (4 * pattern.length + 8)).run ⟨pattern, 0, []⟩ with
  | .ok (r, s) =>
    if s.rest.isEmpty then .ok (r, s.opened)
    else if atClose extended s.rest then .error "Unmatched ) or \\)"
    else .error "Invalid regular expression"
  | .error e => .error e

end Regex

end JobControl.Host
