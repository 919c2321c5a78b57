import JobControl.Text.Decimal

/-!
# Job numbers

A job is named by a 32-bit number, written in decimal. A reference to a job may carry one `%`
before the number; zero names no job.

* `JobId.toString`: the decimal text.
* `JobId.ofString?`: reads a reference, or returns the error that quotes the whole text.
-/

namespace JobControl

/-- The number of a job. -/
structure JobId where
  val : UInt32
  deriving DecidableEq, Repr

namespace JobId

/-- The decimal text of a job number. -/
def toString (id : JobId) : String :=
  Nat.repr id.val.toNat

instance : ToString JobId := ⟨JobId.toString⟩

/-- A job reference that does not name a job number; it keeps the text as written. -/
structure RefError where
  text : String
  deriving DecidableEq, Repr

/-- The diagnostic for a bad job reference. -/
def RefError.message (e : RefError) : String :=
  "invalid job reference: " ++ e.text

/-- The text after one leading `%`, if there is one. -/
def dropPercent (s : String) : String :=
  match s.toList with
  | '%' :: cs => String.ofList cs
  | _ => s

/-- Reads `N` or `%N`, where `N` is an unsigned 32-bit decimal (a leading `+` allowed) above 0. -/
def ofString? (s : String) : Except RefError JobId :=
  match Text.readUInt32? (dropPercent s) with
  | some n => if n = 0 then .error ⟨s⟩ else .ok ⟨n⟩
  | none => .error ⟨s⟩

end JobId

end JobControl
