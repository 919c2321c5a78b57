import JobControl.Host.Tools.Utility
import JobControl.Host.FileTest

/-!
# Utilities: `test` and `[`

The conditional expressions of the `test` utility, read as POSIX fixes them by the number of
arguments (up to four), and beyond that by precedence: `-o` below `-a` below `!` below the
terms. A term is a parenthesized expression, a unary operator and its operand, a comparison
(`=`, `==`, `!=`, the integer comparisons, `-nt`, `-ot`, `-ef`), or a string alone.

* Integers are decimal, of any size, with blanks around and a sign; `-l STRING` in place of
  an integer is the length of the string.
* `-nt` is true when the first file is newer, or exists while the second does not; `-ot`
  the other way round.
* A complaint (`missing argument after`, `invalid integer`, `unary operator expected`,
  `binary operator expected`, `extra argument`, `')' expected`) ends with status 2; the
  program is named in it as it was called.

* `Tool.Test.Args` holds the arguments, `Tool.Test.posix` reads by number, `Tool.test` runs.
-/

namespace JobControl.Host

namespace Tool

namespace Test

/-- The arguments of an expression: the words, and how many of them belong to it (the `]` of
`[` stays behind them, where a reading past the end finds it). -/
structure Args where
  words : Array String
  count : Nat

/-- The word at a position; the empty word past the end. -/
def Args.at (a : Args) (i : Nat) : String :=
  (a.words[i]?).getD ""

/-- Reading: a complaint ends it. -/
abbrev Check := ExceptT String Prog

/-- The complaint that an operator lacks its operand. -/
def beyond {α : Type} (a : Args) : Check α :=
  throw ("missing argument after " ++ quote (a.at (a.count - 1)))

/-- Steps past a word; `strict` asks for a word after it. -/
def advance (a : Args) (strict : Bool) (pos : Nat) : Check Nat :=
  if strict && a.count ≤ pos + 1 then beyond a else pure (pos + 1)

/-- The binary operators. -/
def isBinary (s : String) : Bool :=
  ["=", "!=", "==", "-nt", "-ot", "-ef", "-eq", "-ne", "-lt", "-le", "-gt", "-ge"].contains s

/-- Whether a word looks like an option: `-` and one more byte. -/
def isSwitch (s : String) : Bool :=
  s.startsWith "-" && s.utf8ByteSize = 2

/-- Whether a switch is one of the unary operators' letters. -/
def isUnary (s : String) : Bool :=
  match s.toList with
  | ['-', c] => "abcdefghknoprstuwxzGLOSN".toList.contains c
  | _ => false

/-- Whether a character is a blank. -/
def isBlank (c : Char) : Bool :=
  c = ' ' || c = '\t'

/-- The integer a word spells: blanks, a sign, decimal digits, blanks. -/
def integer (s : String) : Check Int :=
  let cs := s.toList.dropWhile isBlank
  let (neg, ds) : Bool × List Char := match cs with
    | '+' :: r => (false, r)
    | '-' :: r => (true, r)
    | r => (false, r)
  let digits := ds.takeWhile Char.isDigit
  let rest := ds.dropWhile Char.isDigit
  if digits.isEmpty || !rest.all isBlank then throw ("invalid integer " ++ quote s)
  else
    let v : Int := digits.foldl (fun n d => n * 10 + (d.toNat - '0'.toNat)) 0
    pure (if neg then -v else v)

/-- A unary operator at `pos` and its operand. `-a` and `-o` are no unary operators; `-t`
asks whether a descriptor is a terminal, which none is here; `-N` whether a file changed
since it was last read, which is never known here. -/
def unaryOperator (a : Args) (pos : Nat) : Check (Bool × Nat) := do
  let op := a.at pos
  let letter := (op.toList.drop 1).headD ' '
  if letter = 'a' || letter = 'o' then throw (quote op ++ ": unary operator expected")
  let next ← advance a true pos
  let arg := a.at next
  let pos := next + 1
  match letter with
  | 'n' => pure (!arg.isEmpty, pos)
  | 'z' => pure (arg.isEmpty, pos)
  | 't' => do
    let _ ← integer arg
    pure (false, pos)
  | 'N' => pure (false, pos)
  | _ => pure (← (FileTest.check letter arg : Prog Bool), pos)

/-- A binary operator after the word at `pos` (after `-l` and its string when `lengthLeft`),
and its operands. -/
def binaryOperator (a : Args) (lengthLeft : Bool) (pos : Nat) : Check (Bool × Nat) := do
  let pos := if lengthLeft then pos + 1 else pos
  let op := pos + 1
  let lengthRight := op + 2 < a.count && a.at (op + 1) == "-l"
  let pos := if lengthRight then pos + 1 else pos
  let name := a.at op
  if name.startsWith "-" then
    if ["-lt", "-le", "-gt", "-ge", "-eq", "-ne"].contains name then
      let l ← if lengthLeft then pure ((a.at (op - 1)).utf8ByteSize : Int) else integer (a.at (op - 1))
      let r ← if lengthRight then pure ((a.at (op + 2)).utf8ByteSize : Int) else integer (a.at (op + 1))
      let v := match name with
        | "-lt" => decide (l < r)
        | "-le" => decide (l ≤ r)
        | "-gt" => decide (l > r)
        | "-ge" => decide (l ≥ r)
        | "-eq" => l == r
        | _ => l != r
      pure (v, pos + 3)
    else if ["-nt", "-ot", "-ef"].contains name then
      if lengthLeft || lengthRight then throw (name ++ " does not accept -l")
      let (x, y) ← (FileTest.both (a.at (op - 1)) (a.at (op + 1)) : Prog _)
      let v := match name, x, y with
        | "-nt", some i, some j => decide (i.stamp > j.stamp)
        | "-nt", some _, none => true
        | "-ot", some i, some j => decide (i.stamp < j.stamp)
        | "-ot", none, some _ => true
        | "-ef", some i, some j => i.node == j.node
        | _, _, _ => false
      pure (v, pos + 3)
    else throw (quote name ++ ": unknown binary operator")
  else if name == "=" || name == "==" then pure (a.at pos == a.at (pos + 2), pos + 3)
  else pure (a.at pos != a.at (pos + 2), pos + 3)

/-- One argument: true when it is not empty. -/
def one (a : Args) (pos : Nat) : Bool × Nat :=
  (!(a.at pos).isEmpty, pos + 1)

/-- Two arguments: `!` and one, or a unary operator and its operand. -/
def two (a : Args) (pos : Nat) : Check (Bool × Nat) :=
  if a.at pos == "!" then
    let (v, p) := one a (pos + 1)
    pure (!v, p)
  else if isSwitch (a.at pos) then
    if isUnary (a.at pos) then unaryOperator a pos
    else throw (quote (a.at pos) ++ ": unary operator expected")
  else beyond a

/-- How many words a parenthesized expression after `pos` is read as, by the place of its `)`:
up to four, else all that is left. -/
def parenWords (a : Args) (pos : Nat) : Nat :=
  let closes (n : Nat) : Bool := !(pos + n < a.count && a.at (pos + n) != ")")
  if closes 1 then 1 else if closes 2 then 2 else if closes 3 then 3 else if closes 4 then 4
  else a.count - pos

/-- The words at the front that are `!`: their number's parity, and the position after them. -/
def skipNots (a : Args) : Nat → Nat → Bool → Check (Nat × Bool)
  | 0, pos, negated => pure (pos, negated)
  | fuel + 1, pos, negated =>
    if pos < a.count && a.at pos == "!" then do
      let p ← advance a true pos
      skipNots a fuel p (!negated)
    else pure (pos, negated)

mutual

/-- Reads an expression by the number of its words. -/
def posix (a : Args) : Nat → Nat → Nat → Check (Bool × Nat)
  | 0, _, pos => pure (false, pos)
  | fuel + 1, n, pos =>
    match n with
    | 1 => pure (one a pos)
    | 2 => two a pos
    | 3 => three a fuel pos
    | 4 =>
      if a.at pos == "!" then do
        let p ← advance a true pos
        let (v, p) ← three a fuel p
        pure (!v, p)
      else if a.at pos == "(" && a.at (pos + 3) == ")" then do
        let (v, p) ← two a (pos + 1)
        pure (v, p + 1)
      else expr a fuel pos
    | _ => expr a fuel pos

/-- Three words: a comparison, `!` and two, one framed by `(` and `)`, or an expression
joined by `-a` or `-o`. -/
def three (a : Args) : Nat → Nat → Check (Bool × Nat)
  | 0, pos => pure (false, pos)
  | fuel + 1, pos =>
    if isBinary (a.at (pos + 1)) then binaryOperator a false pos
    else if a.at pos == "!" then do
      let p ← advance a true pos
      let (v, p) ← two a p
      pure (!v, p)
    else if a.at pos == "(" && a.at (pos + 2) == ")" then
      let (v, p) := one a (pos + 1)
      pure (v, p + 1)
    else if a.at (pos + 1) == "-a" || a.at (pos + 1) == "-o" then expr a fuel pos
    else throw (quote (a.at (pos + 1)) ++ ": binary operator expected")

/-- An expression by precedence. -/
def expr (a : Args) : Nat → Nat → Check (Bool × Nat)
  | 0, pos => pure (false, pos)
  | fuel + 1, pos =>
    if a.count ≤ pos then beyond a else orExpr a fuel pos

/-- Alternatives joined by `-o`, each evaluated. -/
def orExpr (a : Args) : Nat → Nat → Check (Bool × Nat)
  | 0, pos => pure (false, pos)
  | fuel + 1, pos => do
    let (v, p) ← andExpr a fuel pos
    if p < a.count && a.at p == "-o" then
      let (w, q) ← orExpr a fuel (p + 1)
      pure (v || w, q)
    else pure (v, p)

/-- Terms joined by `-a`, each evaluated. -/
def andExpr (a : Args) : Nat → Nat → Check (Bool × Nat)
  | 0, pos => pure (false, pos)
  | fuel + 1, pos => do
    let (v, p) ← term a fuel pos
    if p < a.count && a.at p == "-a" then
      let (w, q) ← andExpr a fuel (p + 1)
      pure (v && w, q)
    else pure (v, p)

/-- A term, after any number of `!`. -/
def term (a : Args) : Nat → Nat → Check (Bool × Nat)
  | 0, pos => pure (false, pos)
  | fuel + 1, pos => do
    let (pos, negated) ← skipNots a a.count pos false
    let (v, p) ←
      if a.at pos == "(" then do
        let p ← advance a true pos
        let (v, p) ← posix a fuel (parenWords a p) p
        match a.words[p]? with
        | none => throw (quote ")" ++ " expected")
        | some w =>
          if w != ")" then throw (quote ")" ++ " expected, found " ++ quote w)
          else pure (v, p + 1)
      else if 4 ≤ a.count - pos && a.at pos == "-l" && isBinary (a.at (pos + 2)) then
        binaryOperator a true pos
      else if 3 ≤ a.count - pos && isBinary (a.at (pos + 1)) then binaryOperator a false pos
      else if isSwitch (a.at pos) then
        if isUnary (a.at pos) then unaryOperator a pos
        else throw (quote (a.at pos) ++ ": unary operator expected")
      else pure (!(a.at pos).isEmpty, pos + 1)
    pure (v != negated, p)

end

/-- Evaluates the words of an expression: true, false, or the complaint. -/
def evaluate (a : Args) : Prog (Except String Bool) :=
  if a.count = 0 then pure (.ok false)
  else
    ExceptT.run do
      let (v, pos) ← posix a (8 * a.count + 16) a.count 0
      if pos ≠ a.count then throw ("extra argument " ++ quote (a.at pos))
      pure v

end Test

/-- `test` and `[` (`bracket`): evaluates a conditional expression; 0 true, 1 false, 2 a
complaint. The last argument of `[` must be `]`. -/
def test (bracket : Bool) (argv : List String) : Prog Nat := do
  let name := argv.headD (if bracket then "[" else "test")
  let args := argv.drop 1
  if bracket && args.getLast? != some "]" then
    complain name ("missing " ++ quote "]")
    return 2
  let count := if bracket then args.length - 1 else args.length
  match ← Test.evaluate ⟨args.toArray, count⟩ with
  | .ok v => pure (if v then 0 else 1)
  | .error m =>
    complain name m
    pure 2

end Tool

end JobControl.Host
