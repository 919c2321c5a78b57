/-!
# Decimal integers

The grammar by which job numbers and exit codes are read: an optional sign, then one or more
ASCII digits, with the value inside the range of the target width. Leading zeros are allowed. A
minus sign is accepted only where the target is signed, and a sign alone is no number.

* `digitsValue?`: the value of a non-empty run of digits.
* `readBelow?`: an optional `+`, then digits, with the value below a bound.
* `readUInt32?`, `readInt32?`: the two widths in use.
-/

namespace JobControl.Text

/-- The value of a non-empty list of ASCII digits, most significant first. -/
def digitsValue? : List Char → Option Nat
  | [] => none
  | cs =>
    if cs.all Char.isDigit then
      some (cs.foldl (fun acc d => 10 * acc + (d.toNat - '0'.toNat)) 0)
    else none

/-- An optional `+` and a non-empty run of digits whose value lies below `bound`. -/
def readBelow? (bound : Nat) : List Char → Option Nat
  | '+' :: ds => (digitsValue? ds).filter (· < bound)
  | ds => (digitsValue? ds).filter (· < bound)

/-- An unsigned 32-bit number: `+` allowed, `-` never. -/
def readUInt32? (s : String) : Option UInt32 :=
  (readBelow? (Nat.pow 2 32) s.toList).map UInt32.ofNat

/-- A signed 32-bit number: `+` or `-`, then digits, within -2^31 .. 2^31 - 1. -/
def readInt32? (s : String) : Option Int32 :=
  match s.toList with
  | '-' :: ds => (digitsValue? ds).bind fun n =>
      if n ≤ Nat.pow 2 31 then some (Int32.ofInt (-(n : Int))) else none
  | cs => (readBelow? (Nat.pow 2 31) cs).map fun n => Int32.ofInt n

example : readUInt32? "+007" = some 7 ∧ readUInt32? "4294967295" = some 4294967295 ∧
    readUInt32? "4294967296" = none ∧ readUInt32? "+" = none ∧ readUInt32? "-1" = none ∧
    readUInt32? "" = none := by decide +kernel

example : readInt32? "-2147483648" = some (-2147483648) ∧ readInt32? "-" = none ∧
    readInt32? "2147483648" = none ∧ readInt32? "+4" = some 4 := by decide +kernel

end JobControl.Text
