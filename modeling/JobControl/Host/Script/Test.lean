import JobControl.Host.FileTest
import JobControl.Text.Utf8

/-!
# Shell scripts: the conditional expressions of `test` and `[`

The shell reads the arguments of `test` from left to right and evaluates as it reads.

* By their number first: three arguments whose middle one is a binary operator are that
  comparison; three or four framed by `(` and `)` are what stands between; three or four led
  by `!` are the negation of the rest, read again by its number. None at all is false.
* Otherwise by precedence, `-o` below `-a` below `!` below the primaries. Both operands of `-a`
  and `-o` are evaluated, so complaints come in the order of the arguments.
* A word is an operator by its text, with two exceptions that make it an operand: a unary
  operator that is the last argument, or that is followed by one last argument that is not a
  binary operator; and `(` as the last argument.
* A primary is a unary operator and its operand, an operand followed by a binary operator and
  another operand, or an operand alone (true when it is not empty).
* Integers are decimal with optional blanks around and a sign, within 64 bits.

What is left after the expression is a complaint (`unexpected operator`), as are a bad
integer, a missing `)` and an operator without its operand: `test` then fails with status 2.

* `Test.evaluate` is the whole evaluation, `Test.run` the builtin's result.
-/

namespace JobControl.Host.Script

namespace Test

/-- An operator of `test`. -/
inductive Operator
  /-- A unary operator, by its letter: `-f` is `.unary 'f'`. -/
  | unary (letter : Char)
  | binary (name : String)
  | not
  | and
  | or
  | openParen
  | closeParen
  deriving DecidableEq, Repr

/-- The letters of the unary operators. -/
def unaryLetters : List Char :=
  ['r', 'w', 'x', 'e', 'f', 'd', 'c', 'b', 'p', 'u', 'g', 'k', 's', 't', 'z', 'n', 'h', 'O',
    'G', 'L', 'S']

/-- The binary operators. -/
def binaryNames : List String :=
  ["=", "!=", "<", ">", "-eq", "-ne", "-ge", "-gt", "-le", "-lt", "-nt", "-ot", "-ef"]

/-- The operator a word spells, if any. -/
def operatorOf? (s : String) : Option Operator :=
  match s with
  | "!" => some .not
  | "-a" => some .and
  | "-o" => some .or
  | "(" => some .openParen
  | ")" => some .closeParen
  | _ =>
    if binaryNames.contains s then some (.binary s)
    else
      match s.toList with
      | ['-', c] => if unaryLetters.contains c then some (.unary c) else none
      | _ => none

/-- Whether a word spells a binary operator. -/
def isBinary (s : String) : Bool :=
  match operatorOf? s with
  | some (.binary _) => true
  | _ => false

/-- What the argument at a position is read as: nothing (past the end), an operand, or an
operator. -/
inductive Token
  | eoi
  | operand
  | op (o : Operator)
  deriving DecidableEq, Repr

/-- Reads the argument at a position. A unary operator is an operand when it is last, or when
one argument follows and that one is no binary operator; `(` is an operand when it is last. -/
def lex (args : Array String) (i : Nat) : Token :=
  match args[i]? with
  | none => .eoi
  | some s =>
    match operatorOf? s with
    | some (.unary c) =>
      let isOperand :=
        if args.size ≤ i + 1 then true
        else if args.size ≤ i + 2 then false
        else isBinary ((args[i + 1]?).getD "")
      if isOperand then .operand else .op (.unary c)
    | some .openParen => if args.size ≤ i + 1 then .operand else .op .openParen
    | some o => .op o
    | none => .operand

/-- Evaluation: a complaint ends it. -/
abbrev Eval := ExceptT String Prog

/-- The blanks an integer may have around it. -/
def isSpace (c : Char) : Bool :=
  c = ' ' || c = '\t' || c = '\n' || c = '\x0b' || c = '\x0c' || c = '\r'

/-- The largest integer `test` compares. -/
def intMax : Int := 9223372036854775807

/-- The smallest integer `test` compares. -/
def intMin : Int := -9223372036854775808

/-- The integer a word spells: blanks, an optional sign, decimal digits, blanks; `none` when
there is anything else or the value leaves 64 bits. -/
def number? (s : String) : Option Int :=
  let cs := s.toList.dropWhile isSpace
  let (neg, ds) : Bool × List Char := match cs with
    | '-' :: r => (true, r)
    | '+' :: r => (false, r)
    | r => (false, r)
  let digits := ds.takeWhile Char.isDigit
  let rest := ds.dropWhile Char.isDigit
  if digits.isEmpty || !rest.all isSpace then none
  else
    let magnitude : Int := digits.foldl (fun n d => n * 10 + (d.toNat - '0'.toNat)) 0
    let v := if neg then -magnitude else magnitude
    if v > intMax || v < intMin then none else some v

/-- An integer operand, or the complaint about it. -/
def integer (s : String) : Eval Int :=
  match number? s with
  | some v => pure v
  | none => throw ("Illegal number: " ++ s)

/-- Compares two operands by a binary operator. Strings compare by their bytes; `-nt` and
`-ot` compare when the files last changed and `-ef` whether they are one file, each false
unless both paths lead somewhere. -/
def compare (a op b : String) : Eval Bool := do
  match op with
  | "=" => pure (a == b)
  | "!=" => pure (a != b)
  | "<" => pure (decide (a < b))
  | ">" => pure (decide (b < a))
  | "-eq" => pure ((← integer a) == (← integer b))
  | "-ne" => pure ((← integer a) != (← integer b))
  | "-ge" => pure (decide ((← integer a) ≥ (← integer b)))
  | "-gt" => pure (decide ((← integer a) > (← integer b)))
  | "-le" => pure (decide ((← integer a) ≤ (← integer b)))
  | "-lt" => pure (decide ((← integer a) < (← integer b)))
  | _ =>
    match ← (FileTest.both (Text.decodeBytes a) (Text.decodeBytes b) : Prog _) with
    | (some x, some y) =>
      pure (match op with
        | "-nt" => decide (x.stamp > y.stamp)
        | "-ot" => decide (x.stamp < y.stamp)
        | _ => x.node == y.node)
    | _ => pure false

/-- Applies a unary operator to its operand. `-t` asks whether a descriptor is a terminal,
which none is here. -/
def unary (letter : Char) (arg : String) : Eval Bool :=
  match letter with
  | 'z' => pure arg.isEmpty
  | 'n' => pure (!arg.isEmpty)
  | 't' => do
    let _ ← integer arg
    pure false
  | _ => (FileTest.check letter (Text.decodeBytes arg) : Prog Bool)

mutual

/-- Reads and evaluates `-o` alternatives from the token at a position; the value and the
position of the last argument read. -/
def orExpr (args : Array String) : Nat → Token → Nat → Eval (Bool × Nat)
  | 0, _, p => pure (false, p)
  | fuel + 1, t, p => do
    let (a, p) ← andExpr args fuel t p
    match lex args (p + 1) with
    | .op .or =>
      let (b, p) ← orExpr args fuel (lex args (p + 2)) (p + 2)
      pure (a || b, p)
    | _ => pure (a, p)

/-- Reads and evaluates `-a` conjunctions. -/
def andExpr (args : Array String) : Nat → Token → Nat → Eval (Bool × Nat)
  | 0, _, p => pure (false, p)
  | fuel + 1, t, p => do
    let (a, p) ← notExpr args fuel t p
    match lex args (p + 1) with
    | .op .and =>
      let (b, p) ← andExpr args fuel (lex args (p + 2)) (p + 2)
      pure (a && b, p)
    | _ => pure (a, p)

/-- Reads and evaluates negations. -/
def notExpr (args : Array String) : Nat → Token → Nat → Eval (Bool × Nat)
  | 0, _, p => pure (false, p)
  | fuel + 1, t, p =>
    match t with
    | .op .not => do
      let (v, p) ← notExpr args fuel (lex args (p + 1)) (p + 1)
      pure (!v, p)
    | _ => primary args fuel t p

/-- Reads and evaluates a primary: nothing (false), a parenthesized expression, a unary
operator and its operand, a comparison, or an operand alone. -/
def primary (args : Array String) : Nat → Token → Nat → Eval (Bool × Nat)
  | 0, _, p => pure (false, p)
  | fuel + 1, t, p =>
    match t with
    | .eoi => pure (false, p)
    | .op .openParen =>
      match lex args (p + 1) with
      | .op .closeParen => pure (false, p + 1)
      | next => do
        let (v, q) ← orExpr args fuel next (p + 1)
        match lex args (q + 1) with
        | .op .closeParen => pure (v, q + 1)
        | _ => throw "closing paren expected"
    | .op (.unary c) =>
      match args[p + 1]? with
      | none => throw (String.ofList ['-', c] ++ ": argument expected")
      | some arg => do pure (← unary c arg, p + 1)
    | _ =>
      let here := (args[p]?).getD ""
      match lex args (p + 1) with
      | .op (.binary op) =>
        match args[p + 2]? with
        | none => throw (op ++ ": argument expected")
        | some b => do pure (← compare here op b, p + 2)
      | _ => pure (!here.isEmpty, p)

end

/-- Evaluates a whole expression read from its first token; what is left after it is a
complaint. `negated` turns the answer round. -/
def whole (negated : Bool) (args : Array String) (t : Token) : Eval Bool := do
  let (v, p) ← orExpr args (4 * args.size + 8) t 0
  if p + 1 < args.size then
    let word := (args[p]?).getD ""
    throw (if word.isEmpty then "unexpected operator" else word ++ ": unexpected operator")
  pure (v != negated)

/-- Evaluates the arguments of `test`: first by their number, then by precedence. -/
def evaluate (negated : Bool) : List String → Eval Bool
  | [] => pure negated
  | [a, b, c] =>
    if isBinary b then whole negated #[a, b, c] .operand
    else if a = "(" && c = ")" then whole negated #[b] (lex #[b] 0)
    else if a = "!" then evaluate true [b, c]
    else whole negated #[a, b, c] (lex #[a, b, c] 0)
  | [a, b, c, d] =>
    if a = "(" && d = ")" then whole negated #[b, c] (lex #[b, c] 0)
    else if a = "!" then evaluate true [b, c, d]
    else whole negated #[a, b, c, d] (lex #[a, b, c, d] 0)
  | args => whole negated args.toArray (lex args.toArray 0)

/-- The result of `test` (or of `[`, whose last argument must start with `]`): true, false,
or the complaint. -/
def run (bracket : Bool) (args : List String) : Prog (Except String Bool) :=
  if bracket then
    match args.getLast? with
    | some last =>
      if last.startsWith "]" then (evaluate false args.dropLast).run
      else pure (.error "missing ]")
    | none => pure (.error "missing ]")
  else (evaluate false args).run

end Test

end JobControl.Host.Script
