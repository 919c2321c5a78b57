import JobControl.Host.Script.Expand

/-!
# Shell scripts: how commands end

* `Flow` says how a command ended besides its status: normally, or by `break`, `continue` or
  `return`; `Ran` is the frame after a command with its flow, and a `Runner` runs commands
  for the builtins and loops that need one.
* `fatal` and `abort` end the shell with status 2 after a complaint: `fatal` for a special
  builtin, whose message names it, `abort` for the shell's own errors, which name the `eval`,
  `exec` or sourced file they come from.
* `Done` is what a builtin leaves: its frame, its output and a `Verdict`, a status or a
  complaint.
* `shellNumber?` reads the numbers that `exit`, `shift`, `break`, `return` and `wait` take:
  optional blanks and sign, decimal digits, optional blanks, at most `2^31 - 1` and not
  negative.
-/

namespace JobControl.Host.Script

open Sys

/-- How a command ended besides its status. -/
inductive Flow
  | normal
  | breakLoop (levels : Nat)
  | continueLoop (levels : Nat)
  | leave
  deriving DecidableEq, Repr

/-- Where a command stands: last in its process, or with its status tested. -/
structure Mode where
  tail : Bool
  tested : Bool

/-- The frame after a command and how it ended. -/
abbrev Ran := Frame × Flow

/-- A runner of commands, as the builtins and loops receive it. -/
abbrev Runner := Cmd → Mode → Frame → Prog Ran

/-- How a builtin ends: with a status, or with a complaint. After a complaint a special
builtin ends the shell, and any other has status 2. -/
abbrev Verdict := Except String Nat

/-- What a builtin leaves: its frame, the text for its standard output, which the shell
writes when the builtin is done (after the complaints it wrote as it went), and how it
ended. -/
structure Done where
  frame : Frame
  out : String
  verdict : Verdict

/-- A builtin that ends with a status and no output. -/
def Done.status (f : Frame) (s : Nat) : Done :=
  ⟨f, "", .ok s⟩

/-- A builtin that ends with a complaint and no output. -/
def Done.failed (f : Frame) (msg : String) : Done :=
  ⟨f, "", .error msg⟩

/-- A command in the middle of a script. -/
def Mode.inner : Mode := ⟨false, false⟩

/-- A command whose status is tested. -/
def Mode.condition : Mode := ⟨false, true⟩

/-- Ends a command with a status. -/
def finish (f : Frame) (s : Nat) : Prog Ran :=
  pure ({ f with status := s }, .normal)

/-- Ends the shell after a special builtin's complaint. -/
def fatal {α : Type} (f : Frame) (msg : String) : Prog α := do
  f.complain msg
  Prog.leaveShell f 2

/-- Ends the shell after a complaint of its own. -/
def abort {α : Type} (f : Frame) (msg : String) : Prog α := do
  f.report msg
  Prog.leaveShell f 2

/-- Closes process descriptors. -/
def closeAll (fds : List Nat) : Prog Unit :=
  fds.forM fun fd => do let _ ← Prog.ask (.close fd)

/-- Runs an expansion; a failure ends the shell. -/
def expanding {α : Type} (f : Frame) (x : Expansion α) : Prog (α × Frame × Option Nat) := do
  match ← x.run f with
  | .ok (a, st) => pure (a, st.frame, st.substituted)
  | .error msg => abort f msg

/-- Whether a character is white space for the reading of numbers. -/
def isSpaceChar (c : Char) : Bool :=
  c = ' ' || c = '\t' || c = '\n' || c = '\x0b' || c = '\x0c' || c = '\r'

/-- The number a builtin's operand gives: blanks, an optional sign, decimal digits and
blanks, not negative and at most `2^31 - 1`; `none` for anything else. -/
def shellNumber? (s : String) : Option Nat :=
  let cs := s.toList.dropWhile isSpaceChar
  let (neg, cs) := match cs with
    | '-' :: r => (true, r)
    | '+' :: r => (false, r)
    | r => (false, r)
  let ds := cs.takeWhile Char.isDigit
  let rest := (cs.drop ds.length).dropWhile isSpaceChar
  if ds.isEmpty || !rest.isEmpty then none
  else
    let n := (String.ofList ds).toNat!
    if neg && n ≠ 0 then none
    else if n > 2147483647 then none
    else some n

end JobControl.Host.Script
