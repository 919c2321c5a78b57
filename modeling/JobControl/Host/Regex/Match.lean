import JobControl.Host.Regex.Syntax

/-!
# Regular expressions: matching

An expression is matched against bytes read as UTF-8 text, at byte places, one character (or
lone byte) at a time, by listing every way it can match from a place: each end it can reach, with the groups it captured on the way, in order of preference (a repetition
prefers more, an alternation its left side). A search takes the first place where a match
starts and, there, the longest match; among matches of that length the preferred one gives the
groups.

* `Regex.ends` lists the matches from a place; a repetition never repeats a step that matched
  nothing, and equal results are listed once, so the lists stay small;
* `Regex.search` finds the first, longest match at or after a place, of those a test accepts,
  trying the places where characters start;
* `Regex.compile` reads a pattern, optionally ignoring case.
-/

namespace JobControl.Host

namespace Regex

/-- The groups captured by a match: each group's index with where its text starts and ends,
in order of index. -/
abbrev Captures := List (Nat × Nat × Nat)

/-- Records a group's text, replacing what the group held before. -/
def Captures.put : Captures → Nat → Nat → Nat → Captures
  | [], i, a, b => [(i, a, b)]
  | (j, x, y) :: rest, i, a, b =>
    if i < j then (i, a, b) :: (j, x, y) :: rest
    else if i = j then (i, a, b) :: rest
    else (j, x, y) :: Captures.put rest i a b

/-- Where a group's text starts and ends, if it matched. -/
def Captures.get? (cs : Captures) (i : Nat) : Option (Nat × Nat) :=
  (cs.lookup i)

/-- Bytes to match against, whether case is ignored, and whether `^` and `$` also match at
the newlines inside (multiline matching). -/
structure Subject where
  data : ByteArray
  fold : Bool
  multiline : Bool

/-- The character (or lone byte) at a place, and its length in bytes. -/
def Subject.unitAt (s : Subject) (pos : Nat) : Option (Nat × Nat) :=
  match Text.charAt? s.data pos with
  | some (c, n) => some (c, n)
  | none => s.data[pos]?.map fun b => (rawUnit b, 1)

/-- The character (or lone byte) that ends at a place. -/
def Subject.unitBefore (s : Subject) (pos : Nat) : Option Nat :=
  if pos = 0 then none
  else
    match Text.charBefore? s.data pos with
    | some (c, _) => some c
    | none => s.data[pos - 1]?.map rawUnit

/-- How far the next character from a place reaches: its length, at least one byte. -/
def Subject.stepAt (s : Subject) (pos : Nat) : Nat :=
  match s.unitAt pos with
  | some (_, n) => max n 1
  | none => 1

/-- Whether a character equals a character of the pattern. -/
def Subject.same (s : Subject) (a b : Nat) : Bool :=
  if s.fold then Text.Unicode.toLower a = Text.Unicode.toLower b else a = b

/-- Whether a bracket expression admits a character. -/
def Subject.inSet (s : Subject) (negated : Bool) (ms : List Member) (c : Nat) : Bool :=
  let hit := ms.any (·.admits c) ||
    (s.fold && (ms.any (·.admits (Text.Unicode.toLower c)) ||
      ms.any (·.admits (Text.Unicode.toUpper c))))
  hit != negated

/-- Whether the character at a place is a word character. -/
def Subject.wordAt (s : Subject) (i : Nat) : Bool :=
  match s.unitAt i with
  | some (c, _) => isWordChar c
  | none => false

/-- Whether the character before a place is a word character. -/
def Subject.wordBefore (s : Subject) (i : Nat) : Bool :=
  match s.unitBefore i with
  | some c => isWordChar c
  | none => false

/-- Whether the bytes at a place repeat the bytes from `a` to `b` (ignoring case when the
subject does). -/
def Subject.repeats (s : Subject) (pos a b : Nat) : Bool :=
  pos + (b - a) ≤ s.data.size &&
    if s.fold then
      let x := unitsFrom (s.data.extract a b) 0
      let y := unitsFrom (s.data.extract pos (pos + (b - a))) 0
      x.length = y.length && (x.zip y).all fun (c, d) => s.same c d
    else s.data.extract a b == s.data.extract pos (pos + (b - a))

/-- Every match of an expression from a place, with the groups it captured, in order of
preference; `fuel` bounds the depth of the search. -/
def ends (s : Subject) : Nat → Regex → Nat → Captures → List (Nat × Captures)
  | 0, _, _, _ => []
  | fuel + 1, r, pos, caps =>
    match r with
    | .empty => [(pos, caps)]
    | .char b =>
      match s.unitAt pos with
      | some (c, n) => if s.same c b then [(pos + n, caps)] else []
      | none => []
    | .any =>
      match s.unitAt pos with
      | some (_, n) => [(pos + n, caps)]
      | none => []
    | .oneOf negated ms =>
      match s.unitAt pos with
      | some (c, n) => if s.inSet negated ms c then [(pos + n, caps)] else []
      | none => []
    | .lineStart =>
      if pos = 0 || (s.multiline && s.data[pos - 1]? = some 10) then [(pos, caps)] else []
    | .lineEnd =>
      if pos = s.data.size || (s.multiline && s.data[pos]? = some 10) then [(pos, caps)] else []
    | .textStart => if pos = 0 then [(pos, caps)] else []
    | .textEnd => if pos = s.data.size then [(pos, caps)] else []
    | .wordEdge => if s.wordBefore pos != s.wordAt pos then [(pos, caps)] else []
    | .notWordEdge => if s.wordBefore pos == s.wordAt pos then [(pos, caps)] else []
    | .wordStart => if !s.wordBefore pos && s.wordAt pos then [(pos, caps)] else []
    | .wordEnd => if s.wordBefore pos && !s.wordAt pos then [(pos, caps)] else []
    | .group i body => (ends s fuel body pos caps).map fun (p, c) => (p, c.put i pos p)
    | .backref i =>
      match caps.get? i with
      | some (a, b) => if s.repeats pos a b then [(pos + (b - a), caps)] else []
      | none => []
    | .seq a b => (ends s fuel a pos caps).flatMap fun (p, c) => ends s fuel b p c
    | .alt a b => (ends s fuel a pos caps ++ ends s fuel b pos caps).eraseDups
    | .many body least most =>
      let more := if most = some 0 then []
        else (ends s fuel body pos caps).flatMap fun (p, c) =>
          if p = pos && least = 0 then []
          else ends s fuel (.many body (least - 1) (most.map (· - 1))) p c
      let stop := if least = 0 then [(pos, caps)] else []
      (more ++ stop).eraseDups

/-- The depth a search of an expression over bytes may need. -/
def fuelFor (r : Regex) (size : Nat) : Nat :=
  (r.size + 1) * (size + r.least + 2)

/-- The matches from one place, longest first (the preferred first among equal lengths). -/
def endsFrom (r : Regex) (s : Subject) (start : Nat) : List (Nat × Captures) :=
  (ends s (fuelFor r s.data.size) r start []).mergeSort fun a b => b.1 ≤ a.1

/-- The first place at or after `start` where a match that `accept` takes begins, with the
longest such match there: its start, end and groups. -/
def searchWith (r : Regex) (s : Subject) (accept : Nat → Nat → Bool) :
    Nat → Nat → Option (Nat × Nat × Captures)
  | 0, _ => none
  | fuel + 1, start =>
    if start > s.data.size then none
    else
      match (endsFrom r s start).find? (fun (e, _) => accept start e) with
      | some (e, c) => some (start, e, c)
      | none => searchWith r s accept fuel (start + s.stepAt start)

/-- The first, longest match at or after a place. -/
def search (r : Regex) (s : Subject) (start : Nat) : Option (Nat × Nat × Captures) :=
  searchWith r s (fun _ _ => true) (s.data.size + 2) start

/-- Whether the expression matches somewhere in the bytes. -/
def found (r : Regex) (s : Subject) : Bool :=
  (search r s 0).isSome

/-- An expression that matches a fixed string, given by its bytes. -/
def literal (bytes : List UInt8) : Regex :=
  (unitsOf bytes).foldl (fun acc c => match acc with
    | .empty => .char c
    | _ => .seq acc (.char c)) .empty

/-- Reads a pattern, basic or extended. -/
def compile (extended : Bool) (pattern : String) : Except String Regex :=
  (read extended (codes pattern)).map (·.1)

end Regex

end JobControl.Host
