/-!
# Permission modes

The mode arguments of `chmod` and `mkdir -m`, read into a list of changes and applied to the
twelve mode bits of a file.

A mode is octal (at most `7777`) or a list of clauses separated by commas. A clause names
classes (`u`, `g`, `o`, `a`; none means all, masked by the umask) and then one or more
actions, each an operator (`+`, `-`, `=`) with letters `rwxXst`, or one class to copy
(`u`, `g`, `o`), or an octal number when no class was named.

* `compile`: a mode argument as changes, none when it is not a mode;
* `adjust`: the mode a file gets from its mode, whether it is a directory, a umask and changes;
* `symbolic`: a mode as `ls` shows it, `rwxr-xr-x`.

`X` gives execute permission only to a directory or to a file that some class may already
execute; a class to copy takes that class's bits to every class the clause names; a
directory keeps its set-user and set-group bits unless the change names them.
-/

namespace JobControl.Host

namespace Mode

/-- All twelve mode bits. -/
def all : Nat := 0o7777

/-- How a change finds the bits it sets. -/
inductive Source
  /-- The bits it was given. -/
  | given
  /-- The bits of one class of the file, copied to every class. -/
  | copied
  /-- The bits it was given, with execute permission when the file is a directory or some
  class may execute it. -/
  | executeIfAny
  deriving DecidableEq, Repr

/-- One action of a mode: the operator, how the bits are found, the bits of the classes it
concerns (none: all, under the umask), the bits, and the bits it names. -/
structure Change where
  op : Char
  source : Source
  affected : Nat
  value : Nat
  mentioned : Nat
  deriving DecidableEq, Repr

/-- Whether a character is an octal digit. -/
def isOctal (c : Char) : Bool :=
  '0' ≤ c && c < '8'

/-- Reads octal digits after a number read so far; none when it grows past the mode bits. -/
def readOctal (acc : Nat) : List Char → Option (Nat × List Char)
  | [] => some (acc, [])
  | c :: cs =>
    if isOctal c then
      let v := 8 * acc + (c.toNat - '0'.toNat)
      if v > all then none else readOctal v cs
    else some (acc, c :: cs)

/-- Reads the classes a clause names, as the bits they cover. -/
def readClasses (affected : Nat) : List Char → Nat × List Char
  | 'u' :: cs => readClasses (affected ||| 0o4700) cs
  | 'g' :: cs => readClasses (affected ||| 0o2070) cs
  | 'o' :: cs => readClasses (affected ||| 0o1007) cs
  | 'a' :: cs => readClasses (affected ||| all) cs
  | cs => (affected, cs)

/-- Reads permission letters, as bits for every class and how they are found. -/
def readLetters (value : Nat) (source : Source) : List Char → Nat × Source × List Char
  | 'r' :: cs => readLetters (value ||| 0o444) source cs
  | 'w' :: cs => readLetters (value ||| 0o222) source cs
  | 'x' :: cs => readLetters (value ||| 0o111) source cs
  | 'X' :: cs => readLetters value .executeIfAny cs
  | 's' :: cs => readLetters (value ||| 0o6000) source cs
  | 't' :: cs => readLetters (value ||| 0o1000) source cs
  | cs => (value, source, cs)

/-- Whether an operator starts an action. -/
def isOperator (c : Char) : Bool :=
  c = '+' || c = '-' || c = '='

/-- Reads the action after an operator: an octal number (only when no class was named, and
ending the clause), one class to copy, or permission letters. -/
def readAction (affected : Nat) (op : Char) : List Char → Option (Change × List Char)
  | c :: cs =>
    if isOctal c then
      match readOctal 0 (c :: cs) with
      | none => none
      | some (v, rest) =>
        if affected ≠ 0 || (match rest with | [] => false | d :: _ => d ≠ ',') then none
        else some (⟨op, .given, all, v, all⟩, rest)
    else
      let copy (value : Nat) : Option (Change × List Char) :=
        some (⟨op, .copied, affected, value, if affected ≠ 0 then affected &&& value else value⟩, cs)
      match c with
      | 'u' => copy 0o700
      | 'g' => copy 0o070
      | 'o' => copy 0o007
      | _ =>
        let (value, source, rest) := readLetters 0 .given (c :: cs)
        some (⟨op, source, affected, value, if affected ≠ 0 then affected &&& value else value⟩, rest)
  | [] => some (⟨op, .given, affected, 0, 0⟩, [])

/-- Reads the actions of a clause, each starting with an operator; `fuel` bounds them. -/
def readActions (affected : Nat) : Nat → List Char → Option (List Change × List Char)
  | 0, _ => none
  | fuel + 1, op :: cs =>
    if isOperator op then
      match readAction affected op cs with
      | none => none
      | some (ch, rest) =>
        match rest with
        | d :: _ =>
          if isOperator d then
            (readActions affected fuel rest).map fun (chs, r) => (ch :: chs, r)
          else some ([ch], rest)
        | [] => some ([ch], [])
    else none
  | _ + 1, [] => none

/-- Reads clauses separated by commas to the end of the argument; `fuel` bounds them. -/
def readClauses : Nat → List Char → Option (List Change)
  | 0, _ => none
  | fuel + 1, cs =>
    let (affected, rest) := readClasses 0 cs
    match readActions affected (rest.length + 1) rest with
    | none => none
    | some (chs, []) => some chs
    | some (chs, ',' :: more) => (readClauses fuel more).map (chs ++ ·)
    | some (_, _ :: _) => none

/-- A mode argument as changes: an octal number sets every bit it names, a symbolic mode is
read clause by clause; none when the argument is neither. An octal number of fewer than five
digits leaves the set-user and set-group bits of a directory it does not set. -/
def compile (arg : String) : Option (List Change) :=
  let cs := arg.toList
  match cs with
  | c :: _ =>
    if isOctal c then
      match readOctal 0 cs with
      | some (v, []) =>
        let mentioned := if cs.length < 5 then (v &&& 0o6000) ||| 0o1777 else all
        some [⟨'=', .given, all, v, mentioned⟩]
      | _ => none
    else readClauses (cs.length + 1) cs
  | [] => readClauses 1 cs

/-- The bits a change sets on a mode, before the operator uses them. -/
def Change.bits (ch : Change) (mode : Nat) (isDir : Bool) (umask : Nat) : Nat :=
  let spared := if isDir then 0o6000 &&& (all - ch.mentioned) else 0
  let value := match ch.source with
    | .given => ch.value
    | .copied =>
      let v := ch.value &&& mode
      v ||| (if v &&& 0o444 ≠ 0 then 0o444 else 0) ||| (if v &&& 0o222 ≠ 0 then 0o222 else 0) |||
        (if v &&& 0o111 ≠ 0 then 0o111 else 0)
    | .executeIfAny =>
      if mode &&& 0o111 ≠ 0 || isDir then ch.value ||| 0o111 else ch.value
  value &&& (if ch.affected ≠ 0 then ch.affected else all - umask) &&& (all - spared)

/-- Applies one change to a mode. -/
def Change.apply (isDir : Bool) (umask : Nat) (mode : Nat) (ch : Change) : Nat :=
  let value := ch.bits mode isDir umask
  match ch.op with
  | '+' => mode ||| value
  | '-' => mode &&& (all - value)
  | _ =>
    let spared := if isDir then 0o6000 &&& (all - ch.mentioned) else 0
    let preserved := (if ch.affected ≠ 0 then all - ch.affected else umask) ||| spared
    (mode &&& preserved) ||| value

/-- The mode a file gets from changes. -/
def adjust (mode : Nat) (isDir : Bool) (umask : Nat) (changes : List Change) : Nat :=
  changes.foldl (Change.apply isDir umask) (mode &&& all)

/-- The nine permission letters of a mode with its set-user, set-group and sticky bits, as
`ls -l` shows them after the kind of file. -/
def symbolic (mode : Nat) : String :=
  let bit (n : Nat) : Bool := mode / Nat.pow 2 n % 2 = 1
  let exec (x special : Bool) (on off : Char) : Char :=
    if special then (if x then on else off) else (if x then 'x' else '-')
  String.ofList [if bit 8 then 'r' else '-', if bit 7 then 'w' else '-',
    exec (bit 6) (bit 11) 's' 'S', if bit 5 then 'r' else '-', if bit 4 then 'w' else '-',
    exec (bit 3) (bit 10) 's' 'S', if bit 2 then 'r' else '-', if bit 1 then 'w' else '-',
    exec (bit 0) (bit 9) 't' 'T']

/-- A mode as four octal digits, as `chmod -v` shows it. -/
def octalText (mode : Nat) : String :=
  let ds := Nat.toDigits 8 (mode &&& all)
  String.ofList (List.replicate (4 - ds.length) '0' ++ ds)

example : (compile "a+X").map (adjust 0o655 false 0o022) = some 0o755 := by decide

end Mode

end JobControl.Host
