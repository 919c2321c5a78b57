/-!
# Binary floating-point numbers

Numbers as C's `double` (a significand of 53 bits) or the x86 `long double` (64 bits) hold
them, read from text as `strtod` reads it and printed as `printf` prints `%f`, `%e` and `%g`.

* A `Binary` is a finite `± m · 2^e`, an infinity, or not a number. `Binary.ofFraction`
  rounds an exact fraction to the nearest number with a significand of `bits` bits, ties to
  the even significand;
* `Binary.read` reads the longest prefix of a text that `strtod` takes: blanks, a sign, then
  decimal digits with a point and an exponent `e`, hexadecimal digits after `0x` with an
  exponent `p`, `inf`, `infinity` or `nan`;
* `Binary.fixed`, `Binary.scientific` and `Binary.general` give the digits of `%f`, `%e` and
  `%g`: the exact binary value rounded to the precision, ties to even.
-/

namespace JobControl.Host

/-- A binary floating-point number. -/
inductive Binary
  /-- `± mant · 2^exp`; zero when `mant` is 0. -/
  | finite (neg : Bool) (mant : Nat) (exp : Int)
  | infinite (neg : Bool)
  | nan (neg : Bool)
  deriving Repr, BEq

namespace Binary

/-- Divides and rounds to the nearest whole number, ties to the even one. -/
def roundDiv (n d : Nat) : Nat :=
  let q := n / d
  let r := n % d
  if 2 * r > d || (2 * r = d && q % 2 = 1) then q + 1 else q

/-- `num / den · 2^(-shift)` rounded as `roundDiv` rounds. -/
def scaledRound (num den : Nat) (shift : Int) : Nat :=
  if shift ≤ 0 then roundDiv (num * Nat.pow 2 (-shift).toNat) den
  else roundDiv num (den * Nat.pow 2 shift.toNat)

/-- `num / den · 2^(-shift)` rounded down. -/
def scaledFloor (num den : Nat) (shift : Int) : Nat :=
  if shift ≤ 0 then num * Nat.pow 2 (-shift).toNat / den
  else num / (den * Nat.pow 2 shift.toNat)

/-- The number nearest to the positive fraction `num / den`, with a significand of `bits`
bits: the significand and the exponent. -/
def nearest (bits : Nat) (num den : Nat) : Nat × Int :=
  -- an exponent that puts the significand within a factor of two of `2^(bits-1)`
  let guess : Int := (Nat.log2 num : Int) - (Nat.log2 den : Int) - ((bits : Int) - 1)
  let low := Nat.pow 2 (bits - 1)
  let e :=
    if scaledFloor num den guess ≥ 2 * low then guess + 1
    else if scaledFloor num den guess < low then guess - 1
    else guess
  let m := scaledRound num den e
  if m ≥ 2 * low then (m / 2, e + 1) else (m, e)

/-- The largest and smallest binary exponents of a normal number with a significand of
`bits` bits: 1023 and -1022 for 53 bits, 16383 and -16382 for 64. -/
def exponentRange (bits : Nat) : Int × Int :=
  if bits > 53 then (16383, -16382) else (1023, -1022)

/-- The number nearest to `± num / den`, and whether it is out of range: too large (then it
is infinite), or so small that it lost bits or became zero. -/
def ofFractionChecked (bits : Nat) (neg : Bool) (num den : Nat) : Binary × Bool :=
  if num = 0 || den = 0 then (.finite neg 0 0, false)
  else
    let (m, e) := nearest bits num den
    let (top, bottom) := exponentRange bits
    if e + (bits : Int) - 1 > top then (.infinite neg, true)
    else if e + (bits : Int) - 1 < bottom then
      -- below the normal range the last place is fixed
      let fixedExp := bottom - ((bits : Int) - 1)
      let m' := scaledRound num den fixedExp
      let exact := (if fixedExp ≤ 0 then num * Nat.pow 2 (-fixedExp).toNat % den = 0
        else num % (den * Nat.pow 2 fixedExp.toNat) = 0)
      (.finite neg m' fixedExp, m' = 0 || !exact)
    else (.finite neg m e, false)

/-- The number nearest to `± num / den`. -/
def ofFraction (bits : Nat) (neg : Bool) (num den : Nat) : Binary :=
  (ofFractionChecked bits neg num den).1

/-- The number nearest to `± digits · 10^exp10`, and whether it is out of range. -/
def ofDecimalChecked (bits : Nat) (neg : Bool) (digits : Nat) (exp10 : Int) : Binary × Bool :=
  let limit : Int := if bits > 53 then 4960 else 330
  let size : Int := (toString digits).length
  if digits = 0 then (.finite neg 0 0, false)
  else if exp10 + size > limit then (.infinite neg, true)
  else if exp10 + size < -limit - 20 then (.finite neg 0 0, true)
  else if exp10 ≥ 0 then ofFractionChecked bits neg (digits * Nat.pow 10 exp10.toNat) 1
  else ofFractionChecked bits neg digits (Nat.pow 10 (-exp10).toNat)

/-- The number nearest to `± digits · 10^exp10`. -/
def ofDecimal (bits : Nat) (neg : Bool) (digits : Nat) (exp10 : Int) : Binary :=
  (ofDecimalChecked bits neg digits exp10).1

/-- The value of a decimal digit. -/
def decimalDigit (c : Char) : Option Nat :=
  if c.isDigit then some (c.toNat - '0'.toNat) else none

/-- The value of a hexadecimal digit. -/
def hexDigit (c : Char) : Option Nat :=
  if c.isDigit then some (c.toNat - '0'.toNat)
  else if 'a' ≤ c && c ≤ 'f' then some (c.toNat - 'a'.toNat + 10)
  else if 'A' ≤ c && c ≤ 'F' then some (c.toNat - 'A'.toNat + 10)
  else none

/-- Reads digits of a base at the front: their value, how many, and the rest. -/
def digitRun (digit : Char → Option Nat) (base : Nat) : List Char → Nat × Nat × List Char
  | [] => (0, 0, [])
  | c :: cs =>
    match digit c with
    | none => (0, 0, c :: cs)
    | some d =>
      let (v, k, r) := digitRun digit base cs
      (d * Nat.pow base k + v, k + 1, r)

/-- Reads an exponent after its letter: an optional sign and decimal digits. -/
def exponent (cs : List Char) : Option (Int × List Char) :=
  let (neg, ds) := match cs with
    | '-' :: r => (true, r)
    | '+' :: r => (false, r)
    | r => (false, r)
  let (v, k, r) := digitRun decimalDigit 10 ds
  if k = 0 then none else some (if neg then -(v : Int) else v, r)

/-- Whether a text starts with a word, ignoring case. -/
def startsWithWord (cs : List Char) (w : String) : Bool :=
  (cs.take w.length).map Char.toLower == w.toList

/-- Reads the longest prefix of a text that is a number, as `strtod` does: the number, whether
it was out of range, and the rest; none when no number starts the text. -/
def read (bits : Nat) (text : List Char) : Option (Binary × Bool × List Char) :=
  let cs := text.dropWhile fun c => c = ' ' || c = '\t' || c = '\n' || c = '\r' || c = '\x0b' || c = '\x0c'
  let (neg, cs) := match cs with
    | '-' :: r => (true, r)
    | '+' :: r => (false, r)
    | r => (false, r)
  if startsWithWord cs "infinity" then some (.infinite neg, false, cs.drop 8)
  else if startsWithWord cs "inf" then some (.infinite neg, false, cs.drop 3)
  else if startsWithWord cs "nan" then some (.nan neg, false, cs.drop 3)
  else
    let hex : Option (Binary × Bool × List Char) := match cs with
      | '0' :: x :: r =>
        if x = 'x' || x = 'X' then
          let (iv, ik, r1) := digitRun hexDigit 16 r
          let (fv, fk, r2) := match r1 with
            | '.' :: r' => digitRun hexDigit 16 r'
            | _ => (0, 0, r1)
          if ik + fk = 0 then none
          else
            let rest := if fk = 0 && (match r1 with | '.' :: _ => false | _ => true) then r1 else r2
            let (pe, rest) := match rest with
              | p :: r' => if p = 'p' || p = 'P' then (exponent r').getD (0, rest) else (0, rest)
              | [] => (0, rest)
            let mant := iv * Nat.pow 16 fk + fv
            let e : Int := pe - 4 * (fk : Int)
            let (value, range) := if e ≥ 0 then ofFractionChecked bits neg (mant * Nat.pow 2 e.toNat) 1
              else ofFractionChecked bits neg mant (Nat.pow 2 (-e).toNat)
            some (value, range, rest)
        else none
      | _ => none
    match hex with
    | some r => some r
    | none =>
      let (iv, ik, r1) := digitRun decimalDigit 10 cs
      let (fv, fk, r2, point) := match r1 with
        | '.' :: r' => let (v, k, r) := digitRun decimalDigit 10 r'; (v, k, r, true)
        | _ => (0, 0, r1, false)
      if ik + fk = 0 then none
      else
        let rest := if point then r2 else r1
        let (ex, rest) := match rest with
          | c :: r' => if c = 'e' || c = 'E' then (exponent r').getD (0, rest) else (0, rest)
          | [] => (0, rest)
        let (value, range) := ofDecimalChecked bits neg (iv * Nat.pow 10 fk + fv) (ex - fk)
        some (value, range, rest)

/-- The exact value of `mant · 2^exp` as `N / 10^k`. -/
def asDecimal (mant : Nat) (exp : Int) : Nat × Nat :=
  if exp ≥ 0 then (mant * Nat.pow 2 exp.toNat, 0)
  else (mant * Nat.pow 5 (-exp).toNat, (-exp).toNat)

/-- The digits of `mant · 2^exp` with `prec` digits after the point (no sign). -/
def fixed (mant : Nat) (exp : Int) (prec : Nat) (alt : Bool) : String :=
  let (n, k) := asDecimal mant exp
  let scaled := if k ≥ prec then roundDiv n (Nat.pow 10 (k - prec)) else n * Nat.pow 10 (prec - k)
  let s := toString scaled
  let s := "".pushn '0' (prec + 1 - s.length) ++ s
  let whole := (s.take (s.length - prec)).toString
  let frac := (s.drop (s.length - prec)).toString
  if prec = 0 then (if alt then whole ++ "." else whole) else whole ++ "." ++ frac

/-- The `prec + 1` significant digits of `mant · 2^exp` and its decimal exponent. -/
def significant (mant : Nat) (exp : Int) (prec : Nat) : String × Int :=
  if mant = 0 then ("".pushn '0' (prec + 1), 0)
  else
    let (n, k) := asDecimal mant exp
    let d := (toString n).length
    let x : Int := (d : Int) - 1 - k
    let r := if d ≥ prec + 1 then roundDiv n (Nat.pow 10 (d - 1 - prec)) else n * Nat.pow 10 (prec + 1 - d)
    if (toString r).length > prec + 1 then (toString (r / 10), x + 1) else (toString r, x)

/-- The exponent part of `%e`: a sign and at least two digits. -/
def exponentText (upper : Bool) (x : Int) : String :=
  let digits := toString x.natAbs
  (if upper then "E" else "e") ++ (if x < 0 then "-" else "+") ++ "".pushn '0' (2 - digits.length) ++ digits

/-- The digits of `%e` (no sign). -/
def scientific (mant : Nat) (exp : Int) (prec : Nat) (alt upper : Bool) : String :=
  let (ds, x) := significant mant exp prec
  let head := (ds.take 1).toString
  let tail := (ds.drop 1).toString
  let body := if prec = 0 then (if alt then head ++ "." else head) else head ++ "." ++ tail
  body ++ exponentText upper x

/-- Drops the zeros at the end of a fraction, and its point if nothing is left after it. -/
def trimFraction (s : String) : String :=
  if !s.toList.contains '.' then s
  else
    let t := (s.toList.reverse.dropWhile (· = '0')).reverse
    let t := if t.getLast? = some '.' then t.dropLast else t
    String.ofList t

/-- The digits of `%g` (no sign). -/
def general (mant : Nat) (exp : Int) (prec : Nat) (alt upper : Bool) : String :=
  let p := if prec = 0 then 1 else prec
  let (_, x) := significant mant exp (p - 1)
  if x < (p : Int) && x ≥ -4 then
    let s := fixed mant exp (p - 1 - x).toNat alt
    if alt then s else trimFraction s
  else
    let (ds, x) := significant mant exp (p - 1)
    let head := (ds.take 1).toString
    let tail := (ds.drop 1).toString
    let tail := if alt then tail else String.ofList (tail.toList.reverse.dropWhile (· = '0')).reverse
    let body := if tail.isEmpty then (if alt then head ++ "." else head) else head ++ "." ++ tail
    body ++ exponentText upper x

/-- The digits of `%a` (no sign): a hexadecimal significand and a binary exponent. With 53
bits the leading digit is 1; with 64 bits it is the top four bits of the significand. -/
def hexadecimal (bits : Nat) (mant : Nat) (exp : Int) (prec : Option Nat) (alt upper : Bool) : String :=
  let lead := if bits > 53 then 4 else 1
  -- the bits after the leading digit, as whole hexadecimal digits
  let fracBits := bits - lead
  let fracDigits := (fracBits + 3) / 4
  let pad := fracDigits * 4 - fracBits
  let (first, frac, x) : Nat × Nat × Int :=
    if mant = 0 then (0, 0, 0)
    else (mant / Nat.pow 2 fracBits, (mant % Nat.pow 2 fracBits) * Nat.pow 2 pad, exp + (fracBits : Int))
  -- with a precision the digits are rounded to that many after the point, ties to an even
  -- last digit; a leading digit that grows to sixteen becomes 1 with the exponent four more
  let (first, frac, digits, x) : Nat × Nat × Nat × Int := match prec with
    | some p =>
      if p ≥ fracDigits then (first, frac * Nat.pow 16 (p - fracDigits), p, x)
      else
        let r := roundDiv (first * Nat.pow 16 fracDigits + frac) (Nat.pow 16 (fracDigits - p))
        if r / Nat.pow 16 p ≥ 16 then (1, 0, p, x + 4) else (r / Nat.pow 16 p, r % Nat.pow 16 p, p, x)
    | none => (first, frac, fracDigits, x)
  let hex (n : Nat) : String := String.ofList (Nat.toDigits 16 n)
  let fracText := if digits = 0 then "" else hex frac
  let fracText := "".pushn '0' (digits - fracText.length) ++ fracText
  let fracText := if prec.isNone then String.ofList (fracText.toList.reverse.dropWhile (· = '0')).reverse
    else fracText
  let body := "0x" ++ hex first ++ (if fracText.isEmpty then (if alt then "." else "") else "." ++ fracText) ++
    "p" ++ (if x < 0 then "-" else "+") ++ toString x.natAbs
  if upper then body.toUpper else body

/-- The number nearest to `± n · 2^e`. -/
def ofScaled (bits : Nat) (neg : Bool) (n : Nat) (e : Int) : Binary :=
  if e ≥ 0 then ofFraction bits neg (n * Nat.pow 2 e.toNat) 1 else ofFraction bits neg n (Nat.pow 2 (-e).toNat)

/-- The exact sum of two numbers, rounded: infinities of opposite signs give no number, and an
exact zero is negative only when both were. -/
def add (bits : Nat) : Binary → Binary → Binary
  | .nan n, _ => .nan n
  | _, .nan n => .nan n
  | .infinite a, .infinite b => if a == b then .infinite a else .nan true
  | .infinite a, _ => .infinite a
  | _, .infinite b => .infinite b
  | .finite na ma ea, .finite nb mb eb =>
    let e := min ea eb
    let va : Int := (if na then -(ma : Int) else ma) * Int.pow 2 (ea - e).toNat
    let vb : Int := (if nb then -(mb : Int) else mb) * Int.pow 2 (eb - e).toNat
    let sum := va + vb
    if sum = 0 then .finite (na && nb) 0 0
    else ofScaled bits (sum < 0) sum.natAbs e

/-- The exact product of two numbers, rounded: zero times an infinity gives no number. -/
def mul (bits : Nat) : Binary → Binary → Binary
  | .nan n, _ => .nan n
  | _, .nan n => .nan n
  | .infinite a, .infinite b => .infinite (a != b)
  | .infinite a, .finite nb mb _ => if mb = 0 then .nan true else .infinite (a != nb)
  | .finite na ma _, .infinite b => if ma = 0 then .nan true else .infinite (na != b)
  | .finite na ma ea, .finite nb mb eb => ofScaled bits (na != nb) (ma * mb) (ea + eb)

/-- A whole number. -/
def ofNat (bits : Nat) (n : Nat) : Binary :=
  ofScaled bits false n 0

/-- Compares two numbers by value, none when either is not a number; zeros of both signs are
equal. -/
def compareValues : Binary → Binary → Option Ordering
  | .nan _, _ => none
  | _, .nan _ => none
  | .infinite a, .infinite b => some (if a == b then .eq else if a then .lt else .gt)
  | .infinite a, _ => some (if a then .lt else .gt)
  | _, .infinite b => some (if b then .gt else .lt)
  | .finite na ma ea, .finite nb mb eb =>
    let e := min ea eb
    let va : Int := (if na then -(ma : Int) else ma) * Int.pow 2 (ea - e).toNat
    let vb : Int := (if nb then -(mb : Int) else mb) * Int.pow 2 (eb - e).toNat
    some (Ord.compare va vb)

/-- Whether the number is negative (a negative zero too). -/
def isNegative : Binary → Bool
  | .finite neg _ _ => neg
  | .infinite neg => neg
  | .nan neg => neg

/-- The digits of a conversion `f`, `F`, `e`, `E`, `g`, `G`, `a` or `A` (no sign), for a
significand of `bits` bits; the precision is 6 when none is given (`%a` then shows every
digit it needs). -/
def digitsFor (bits : Nat) (conv : Char) (prec : Option Nat) (alt : Bool) : Binary → String
  | .infinite _ => if conv.isUpper then "INF" else "inf"
  | .nan _ => if conv.isUpper then "NAN" else "nan"
  | .finite _ m e =>
    let p := prec.getD 6
    match conv with
    | 'e' => scientific m e p alt false
    | 'E' => scientific m e p alt true
    | 'g' => general m e p alt false
    | 'G' => general m e p alt true
    | 'a' => hexadecimal bits m e prec alt false
    | 'A' => hexadecimal bits m e prec alt true
    | _ => fixed m e p alt

/-- Whether the number is finite. -/
def isFinite : Binary → Bool
  | .finite _ _ _ => true
  | _ => false

end Binary

end JobControl.Host
