/-!
# Shell arithmetic

The expressions of `$((...))`: signed 64-bit integers with wrap-around, the operators of C with
their precedence (unary `+ - ! ~`; `* / %`; `+ -`; `<< >>`; comparisons; `& ^ |`; `&& ||`;
`?:`) and assignments (`=`, `+=`, ...).

* A number is read as `strtoimax` reads it: decimal, octal after `0`, hexadecimal after
  `0x`, up to the first character that is no digit of its base (so `09` is `0` then `9`),
  and a number too large is the largest one.
* A name stands for the value of the variable, read the same way with blanks around it
  allowed: unset or empty is 0, and anything else is an illegal number.
* The expression is read and computed together, from left to right, as the shell does: the
  first problem met is the one reported, and `&&`, `||` and `?:` neither compute nor look up
  what they skip.
* Errors read `arithmetic expression: expecting primary`, `expecting EOF`, `expecting ')'`,
  `expecting ':'`, or `division by zero`, with the expression's text.

`Arith.evaluate` gives the value and the assignments made, in order.
-/

namespace JobControl.Host.Script

namespace Arith

/-- Why an expression has no value. -/
inductive Error
  /-- A problem of the expression's text: what was expected, and the text. -/
  | reading (expected : String) (source : String)
  | divisionByZero (source : String)
  | badNumber (text : String)
  | readOnly (name : String)
  deriving DecidableEq, Repr

/-- The text of an error, as the shell prints it. -/
def Error.message : Error → String
  | .reading what src => "arithmetic expression: " ++ what ++ ": \"" ++ src ++ "\""
  | .divisionByZero src => "arithmetic expression: division by zero: \"" ++ src ++ "\""
  | .badNumber text => "Illegal number: " ++ text
  | .readOnly name => name ++ ": is read only"

/-- Wraps an integer to signed 64 bits. -/
def wrap (n : Int) : Int :=
  let m := n % 18446744073709551616
  if m ≥ 9223372036854775808 then m - 18446744073709551616 else m

/-- The largest and smallest 64-bit integers. -/
def maxValue : Int := 9223372036854775807
def minValue : Int := -9223372036854775808

/-- A token of an expression; `bad` is a character that starts no token. -/
inductive Token
  | num (n : Int)
  | name (s : String)
  | op (s : String)
  | bad
  deriving DecidableEq, Repr

/-- The operators, longest first so that a longer one wins. -/
def operators : List String :=
  ["<<=", ">>=", "<<", ">>", "<=", ">=", "==", "!=", "&&", "||", "+=", "-=", "*=", "/=", "%=",
    "&=", "^=", "|=", "+", "-", "*", "/", "%", "<", ">", "&", "^", "|", "!", "~", "?", ":", "=",
    "(", ")"]

/-- The value of a digit in a base, if it is one. -/
def digitIn (base : Nat) (c : Char) : Option Nat :=
  let v := if c.isDigit then some (c.toNat - '0'.toNat)
    else if 'a' ≤ c && c ≤ 'z' then some (c.toNat - 'a'.toNat + 10)
    else if 'A' ≤ c && c ≤ 'Z' then some (c.toNat - 'A'.toNat + 10)
    else none
  v.bind fun d => if d < base then some d else none

/-- Reads the digits of a base from the front of a text: the value, what follows and how
many digits there were. -/
def digitsIn (base : Nat) : List Char → Nat × List Char × Nat
  | [] => (0, [], 0)
  | c :: cs =>
    match digitIn base c with
    | none => (0, c :: cs, 0)
    | some d =>
      let (v, rest, k) := digitsIn base cs
      (d * Nat.pow base k + v, rest, k + 1)

/-- Reads an unsigned number as `strtoimax` with base 0 does, from a text that starts with a
digit: `0x` and a hexadecimal digit start a hexadecimal number, `0` an octal one. The value,
whether it was too large (and is then the largest), and what follows. -/
def readNumber (cs : List Char) : Nat × Bool × List Char :=
  let (v, r) := readMagnitude cs
  if (v : Int) > maxValue then (maxValue.toNat, true, r) else (v, false, r)
where
  /-- The digits' value, however large, and what follows. -/
  readMagnitude (cs : List Char) : Nat × List Char :=
    match cs with
    | '0' :: x :: rest =>
      if (x = 'x' || x = 'X') && (rest.head?.bind (digitIn 16)).isSome then
        let (v, r, _) := digitsIn 16 rest
        (v, r)
      else
        let (v, r, _) := digitsIn 8 cs
        (v, r)
    | _ =>
      let (v, r, _) := digitsIn 10 cs
      (v, r)

/-- Whether a character may continue a name. -/
def isNameChar (c : Char) : Bool :=
  c.isAlphanum || c = '_'

/-- Splits the source of an expression into tokens; `fuel` bounds the tokens. -/
def tokensWith : Nat → List Char → List Token
  | 0, _ => []
  | _ + 1, [] => []
  | fuel + 1, c :: cs =>
    if c = ' ' || c = '\t' || c = '\n' then tokensWith fuel cs
    else if c.isDigit then
      let (n, _, rest) := readNumber (c :: cs)
      .num n :: tokensWith fuel rest
    else if c.isAlpha || c = '_' then
      let name := c :: cs.takeWhile isNameChar
      .name (String.ofList name) :: tokensWith fuel (cs.dropWhile isNameChar)
    else
      match operators.find? (fun o => (c :: cs).take o.length == o.toList) with
      | some o => .op o :: tokensWith fuel ((c :: cs).drop o.length)
      | none => [.bad]

/-- Splits the source of an expression into tokens; a character that starts no token ends
them with `bad`. -/
def tokens (src : String) : List Token :=
  tokensWith (src.length + 1) src.toList

/-- The binding power of a binary operator; higher binds tighter. -/
def precedence : String → Option Nat
  | "*" | "/" | "%" => some 10
  | "+" | "-" => some 9
  | "<<" | ">>" => some 8
  | "<" | "<=" | ">" | ">=" => some 7
  | "==" | "!=" => some 6
  | "&" => some 5
  | "^" => some 4
  | "|" => some 3
  | _ => none

/-- The assignment operators, with the binary operator each applies. -/
def assignOp : String → Option String
  | "=" => some ""
  | "+=" => some "+"
  | "-=" => some "-"
  | "*=" => some "*"
  | "/=" => some "/"
  | "%=" => some "%"
  | "<<=" => some "<<"
  | ">>=" => some ">>"
  | "&=" => some "&"
  | "^=" => some "^"
  | "|=" => some "|"
  | _ => none

/-- The integer a variable's text stands for, read as `strtoimax` reads it with blanks
around: empty is 0, and text that is not a number in range is an illegal number. -/
def valueOf (text : String) : Except Error Int :=
  let isBlank (c : Char) := c = ' ' || c = '\t' || c = '\n' || c = '\x0b' || c = '\x0c' || c = '\r'
  let cs := text.toList.dropWhile isBlank
  let (neg, ds) := match cs with
    | '-' :: ds => (true, ds)
    | '+' :: ds => (false, ds)
    | ds => (false, ds)
  match ds with
  | d :: _ =>
    if d.isDigit then
      let (v, rest) := readNumber.readMagnitude ds
      let v : Int := if neg then -(v : Int) else v
      if !(rest.all isBlank) then .error (.badNumber text)
      else if v > maxValue || v < minValue then .error (.badNumber text)
      else .ok v
    else .error (.badNumber text)
  | [] => if cs.isEmpty then .ok 0 else .error (.badNumber text)

/-- Applies a binary operator with 64-bit wrap-around; `none` for a division by zero. -/
def apply (op : String) (a b : Int) : Option Int :=
  let bool (p : Bool) : Int := if p then 1 else 0
  match op with
  | "+" => some (wrap (a + b))
  | "-" => some (wrap (a - b))
  | "*" => some (wrap (a * b))
  | "/" => if b = 0 then none else some (wrap (a.tdiv b))
  | "%" => if b = 0 then none else some (wrap (a.tmod b))
  | "<<" => some (wrap (a * Int.pow 2 (b % 64).toNat))
  | ">>" => some (a / Int.pow 2 (b % 64).toNat)
  | "<" => some (bool (a < b))
  | "<=" => some (bool (a ≤ b))
  | ">" => some (bool (a > b))
  | ">=" => some (bool (a ≥ b))
  | "==" => some (bool (a == b))
  | "!=" => some (bool (a != b))
  | "&" => some (Int64.ofInt a &&& Int64.ofInt b).toInt
  | "^" => some (Int64.ofInt a ^^^ Int64.ofInt b).toInt
  | "|" => some (Int64.ofInt a ||| Int64.ofInt b).toInt
  | _ => some 0

/-- Variables as the expression sees and changes them. -/
abbrev Env := List (String × String)

/-- What reading an expression works on: the tokens left, the variables, the names that
cannot be assigned, the assignments made so far (newest first), and the text. -/
structure Reading where
  toks : List Token
  env : Env
  readonly : List String
  assigned : List (String × String)
  source : String

/-- Reading and computing an expression. -/
abbrev Reader := StateT Reading (Except Error)

/-- The next token, left in place. -/
def peek : Reader (Option Token) := do
  pure (← get).toks.head?

/-- Takes the next token. -/
def advance : Reader Unit :=
  modify fun r => { r with toks := r.toks.drop 1 }

/-- Fails with a problem of the text. -/
def expecting {α : Type} (what : String) : Reader α := do
  throw (.reading what (← get).source)

/-- The value of a variable. -/
def lookup (name : String) : Reader Int := do
  match valueOf (((← get).env.lookup name).getD "") with
  | .ok v => pure v
  | .error e => throw e

/-- Assigns a variable. -/
def assignVar (name : String) (v : Int) : Reader Int := do
  let r ← get
  if r.readonly.contains name then throw (.readOnly name)
  set { r with env := (name, toString v) :: r.env.filter (·.1 ≠ name),
               assigned := (name, toString v) :: r.assigned }
  pure v

/-- Applies an operator unless skipping; a division by zero is an error. -/
def applyOp (noeval : Bool) (op : String) (a b : Int) : Reader Int := do
  if noeval then return b
  match apply op a b with
  | some v => pure v
  | none => throw (.divisionByZero (← get).source)

mutual

/-- An assignment, or a conditional expression. -/
def assignment : Nat → Bool → Reader Int
  | 0, _ => expecting "expecting primary"
  | fuel + 1, noeval => do
    let r ← get
    match r.toks with
    | .name n :: .op o :: rest =>
      match assignOp o with
      | some bin => do
        set { r with toks := rest }
        let v ← assignment fuel noeval
        if noeval then return v
        let v ← if bin.isEmpty then pure v else do applyOp false bin (← lookup n) v
        assignVar n v
      | none => cond fuel noeval
    | _ => cond fuel noeval

/-- `a ? b : c`, or an or-expression; the branch not taken is read without computing. -/
def cond : Nat → Bool → Reader Int
  | 0, _ => expecting "expecting primary"
  | fuel + 1, noeval => do
    let a ← orExpr fuel noeval
    if (← peek) != some (.op "?") then return a
    advance
    let b ← assignment fuel (noeval || a == 0)
    if (← peek) != some (.op ":") then expecting "expecting ':'"
    advance
    let c ← cond fuel (noeval || a != 0)
    pure (if a != 0 then b else c)

/-- `a || b`, `b` read without computing when `a` is true. -/
def orExpr : Nat → Bool → Reader Int
  | 0, _ => expecting "expecting primary"
  | fuel + 1, noeval => do
    let a ← andExpr fuel noeval
    if (← peek) != some (.op "||") then return a
    advance
    let b ← orExpr fuel (noeval || a != 0)
    pure (if a != 0 || b != 0 then 1 else 0)

/-- `a && b`, `b` read without computing when `a` is false. -/
def andExpr : Nat → Bool → Reader Int
  | 0, _ => expecting "expecting primary"
  | fuel + 1, noeval => do
    let a ← binary fuel noeval 0
    if (← peek) != some (.op "&&") then return a
    advance
    let b ← andExpr fuel (noeval || a == 0)
    pure (if a != 0 && b != 0 then 1 else 0)

/-- Operators that bind at least as tight as `minPrec`, from the left. -/
def binary : Nat → Bool → Nat → Reader Int
  | 0, _, _ => expecting "expecting primary"
  | fuel + 1, noeval, minPrec => do
    let lhs ← primary fuel noeval
    binaryRest fuel noeval minPrec lhs

/-- Extends `lhs` by operators that bind at least as tight as `minPrec`. -/
def binaryRest : Nat → Bool → Nat → Int → Reader Int
  | 0, _, _, _ => expecting "expecting primary"
  | fuel + 1, noeval, minPrec, lhs => do
    match ← peek with
    | some (.op o) =>
      match precedence o with
      | some p =>
        if p < minPrec then pure lhs
        else do
          advance
          let rhs ← binary fuel noeval (p + 1)
          let v ← applyOp noeval o lhs rhs
          binaryRest fuel noeval minPrec v
      | none => pure lhs
    | _ => pure lhs

/-- A number, a variable, a parenthesised expression, or a unary operator applied to one. -/
def primary : Nat → Bool → Reader Int
  | 0, _ => expecting "expecting primary"
  | fuel + 1, noeval => do
    match ← peek with
    | some (.num n) =>
      advance
      pure n
    | some (.name n) =>
      advance
      if noeval then pure 0 else lookup n
    | some (.op "(") =>
      advance
      let v ← assignment fuel noeval
      if (← peek) != some (.op ")") then expecting "expecting ')'"
      advance
      pure v
    | some (.op "+") =>
      advance
      primary fuel noeval
    | some (.op "-") =>
      advance
      pure (wrap (-(← primary fuel noeval)))
    | some (.op "!") =>
      advance
      pure (if (← primary fuel noeval) == 0 then 1 else 0)
    | some (.op "~") =>
      advance
      pure (wrap (-(← primary fuel noeval) - 1))
    | _ => expecting "expecting primary"

end

/-- Evaluates the source of an expression against variables, of which `readonly` cannot be
assigned: the value and the assignments made, in order. -/
def evaluate (src : String) (env : Env) (readonly : List String) :
    Except Error (Int × List (String × String)) := do
  let ts := tokens src
  let (v, r) ← (assignment (4 * ts.length + 8) false).run ⟨ts, env, readonly, [], src⟩
  if !r.toks.isEmpty then throw (.reading "expecting EOF" src)
  pure (v, r.assigned.reverse)

example : ((evaluate "2 > 1 ? 0x1f : 010" [] []).toOption.map (·.1)) = some 31 := by
  decide +kernel

end Arith

end JobControl.Host.Script
