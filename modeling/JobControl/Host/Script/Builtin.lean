import JobControl.Host.Script.Lookup
import JobControl.Host.Script.Printf
import JobControl.Host.Script.Test
import JobControl.Host.Signal

/-!
# Shell scripts: builtins that stand alone

The builtins of the shell that need nothing from the evaluator: each reads its arguments and
the frame and leaves a `Done`, whose output the shell writes after the builtin's complaints.

* `echo` and `printf` write bytes as `Printf` fills them;
* `test` and `[` evaluate a conditional expression (`Test.run`): 0 true, 1 false, 2 a complaint;
* `kill` sends a signal (`-s NAME`, `-NAME`, `-N`, default TERM) to each pid, and lists
  signal names with `-l` (`0` first, then every signal by name or number);
* `pwd` prints the working directory and `cd` changes it, keeping `PWD` and `OLDPWD`.
-/

namespace JobControl.Host.Script

open Sys

namespace Builtin

/-- Prints the arguments. -/
def echo (f : Frame) (args : List String) : Done :=
  ⟨f, String.ofList (Printf.echoText args), .ok 0⟩

/-- Fills a format with the arguments. -/
def printf (f : Frame) (args : List String) : Prog Done := do
  match takeOptions [] [] args with
  | .error m => pure (.failed f ("printf: " ++ m))
  | .ok (_, []) => pure (.failed f "printf: usage: printf format [arg ...]")
  | .ok (_, format :: rest) =>
    let (out, complaints, stop) := Printf.fill format.toList (rest.length + 1) rest
    for c in complaints do
      f.complain ("printf: " ++ c)
    let out := String.ofList out
    match stop with
    | some m => pure ⟨f, out, .error ("printf: " ++ m)⟩
    | none => pure ⟨f, out, .ok (if complaints.isEmpty then 0 else 1)⟩

/-- Evaluates a conditional expression; `bracket` for `[`, whose last argument must be `]`. -/
def test (bracket : Bool) (f : Frame) (args : List String) : Prog Done := do
  let name := if bracket then "[" else "test"
  match ← Test.run bracket args with
  | .ok b => pure (.status f (if b then 0 else 1))
  | .error m => pure (.failed f (name ++ ": " ++ m))

/-- The name the shell gives a signal number: its trap name, or the number itself. -/
def signalName (n : Nat) : String :=
  (Signal.trapName? n).getD (toString n)

/-- The lines `kill -l` prints: `0`, then the name of every signal. -/
def signalList : String :=
  "0\n" ++ String.join ((List.range Signal.max).map fun n => signalName (n + 1) ++ "\n")

/-- The signal a `kill` option names: a number below 65, or a signal's name in any case
(without `SIG`). -/
def killSignal? (s : String) : Option Nat :=
  if !s.isEmpty && s.all Char.isDigit then
    let n := s.toNat!
    if n ≤ Signal.max then some n else none
  else (List.range Signal.max).map (· + 1) |>.find? fun n => (signalName n).toUpper == s.toUpper

/-- A number as `kill` reads a pid or an exit status: decimal digits up to `2^31 - 1`. -/
def killNumber? (s : String) : Option Nat :=
  if !s.isEmpty && s.all Char.isDigit && s.toNat! ≤ 2147483647 then some s.toNat! else none

/-- Sends a signal to processes, or lists signal names. An argument `-SIGNAL` names the signal;
otherwise the options are `-l` (list) and `-s SIGNAL`. A pid with `-` is a process group; a
job (`%...`) names none, there being no jobs. The first operand that is no number ends the
builtin with status 2; a signal that cannot be sent is reported (status 1). -/
def kill (f : Frame) (args : List String) : Prog Done := do
  let usage := "kill: Usage: kill [-s sigspec | -signum | -sigspec] [pid | job]... or\nkill -l [exitstatus]"
  let parsed : Except String (Option Nat × Bool × List String) :=
    match args with
    | [] => .error usage
    | first :: rest =>
      match first.toList with
      | '-' :: spec =>
        match killSignal? (String.ofList spec) with
        | some n => .ok (some n, false, rest)
        | none =>
          match takeOptions ['l', 's'] ['s'] args with
          | .error m => .error ("kill: " ++ m)
          | .ok (opts, operands) =>
            let step (acc : Except String (Option Nat × Bool)) (o : Char × String) :=
              acc.bind fun (sig, list) =>
                if o.1 = 's' then
                  match killSignal? o.2 with
                  | some n => .ok (some n, list)
                  | none => .error ("kill: invalid signal number or name: " ++ o.2)
                else .ok (sig, true)
            (opts.foldl step (.ok (none, false))).map fun (sig, list) => (sig, list, operands)
      | _ => .ok (none, false, args)
  match parsed with
  | .error m => pure (.failed f m)
  | .ok (sig, list, operands) =>
    if list then
      match sig, operands with
      | _, [] => pure ⟨f, signalList, .ok 0⟩
      | some _, _ :: _ => pure (.failed f usage)
      | none, n :: _ =>
        match killNumber? n with
        | none => pure (.failed f ("kill: Illegal number: " ++ n))
        | some k =>
          let k := if k > 128 then k - 128 else k
          if 0 < k && k ≤ Signal.max then pure ⟨f, signalName k ++ "\n", .ok 0⟩
          else pure (.failed f ("kill: invalid signal number or exit status: " ++ n))
    else if operands.isEmpty then pure (.failed f usage)
    else
      let s := sig.getD 15
      let rec send : List String → Nat → Prog Done
        | [], status => pure (.status f status)
        | p :: rest, status => do
          let target : Except String Int := match p.toList with
            | '%' :: _ => .error ("kill: No such job: " ++ p)
            | '-' :: ds =>
              match killNumber? (String.ofList ds) with
              | some n => .ok (-(n : Int))
              | none => .error ("kill: Illegal number: " ++ String.ofList ds)
            | _ =>
              match killNumber? p with
              | some n => .ok (n : Int)
              | none => .error ("kill: Illegal number: " ++ p)
          match target with
          | .error m => pure (.failed f m)
          | .ok t =>
            match ← Prog.ask (.kill t s) with
            | .ok () => send rest status
            | .error e =>
              f.complain ("kill: " ++ e.description ++ "\n")
              send rest 1
      send operands 0

/-- Prints the working directory. -/
def pwd (f : Frame) (_args : List String) : Prog Done := do
  match ← Prog.ask .currentDir with
  | .ok d => pure ⟨f, Text.encodeBytes d ++ "\n", .ok 0⟩
  | .error e => pure (.failed f ("pwd: " ++ e.description))

/-- Changes the working directory: to `HOME` without an operand, to `OLDPWD` (which is
printed) for `-`; `PWD` and `OLDPWD` follow and are exported. -/
def cd (f : Frame) (args : List String) : Prog Done := do
  let operands := match args with
    | "--" :: rest => rest
    | rest => rest
  let (target, announce) := match operands with
    | [] => ((f.get? "HOME").getD "", false)
    | "-" :: _ => ((f.get? "OLDPWD").getD "", true)
    | d :: _ => (d, false)
  let dest := if target.isEmpty then "." else target
  match ← Prog.ask (.changeDir (Text.decodeBytes dest)) with
  | .ok () =>
    let old := (f.get? "PWD").getD ""
    let now ← match ← Prog.ask .currentDir with
      | .ok d => pure (Text.encodeBytes d)
      | .error _ => pure dest
    let g := (((f.set "OLDPWD" old).set "PWD" now).markExported "OLDPWD").markExported "PWD"
    pure ⟨g, if announce then now ++ "\n" else "", .ok 0⟩
  | .error _ => pure (.failed f ("cd: can't cd to " ++ target))

end Builtin

end JobControl.Host.Script
