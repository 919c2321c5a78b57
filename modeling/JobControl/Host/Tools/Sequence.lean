import JobControl.Host.Tools.Utility
import JobControl.Host.Format

/-!
# Utilities: seq

`seq [FIRST [STEP]] LAST` prints numbers from `FIRST` (1) by `STEP` (1) up to `LAST`.

* Operands are read as `strtold` reads them, into a significand of 64 bits; the text of an
  operand also tells how many places it shows and how wide it is (`SeqOperand`).
* Without `-f`, numbers are printed with the places of the first operand and the step, and
  with `-w` padded with zeros to the wider of the first and the last; when an operand shows no
  fixed number of places (hexadecimal with a point, say), as `%g` prints.
* `-f` gives a format with exactly one floating conversion, `-s` the separator (a newline by
  default). The last number always ends with a newline.
* Numbers are `FIRST + i · STEP`, each rounded, while they do not pass `LAST`; one that just
  passes it is still printed when it shows as `LAST` does and differently from the one before.
* Whole operands, the first not negative, are counted exactly, however large.
-/

namespace JobControl.Host

open Sys

namespace Tool

/-- An operand of `seq`: its value, the places it shows (none: no fixed number) and its width. -/
structure SeqOperand where
  value : Binary
  places : Option Int
  width : Int

/-- Reads the exponent after an `e`: a sign and digits, 0 when there are none. -/
def exponentValue (cs : List Char) : Int :=
  let (neg, ds) := match cs with
    | '-' :: r => (true, r)
    | '+' :: r => (false, r)
    | r => (false, r)
  let v : Int := ((ds.takeWhile Char.isDigit).foldl (fun n c => n * 10 + (c.toNat - '0'.toNat)) 0 : Nat)
  if neg then -v else v

/-- Reads an operand of `seq`, or the complaint about it (which the usage hint follows). -/
def scanOperand (arg : String) : Except String SeqOperand := do
  let value ← match Binary.read 64 arg.toList with
    | some (v, range, []) =>
      if range && !(match v with | .finite _ 0 _ => true | _ => false) then
        .error ("invalid floating point argument: " ++ quote arg)
      else .ok v
    | _ => .error ("invalid floating point argument: " ++ quote arg)
  if let .nan _ := value then
    throw ("invalid " ++ quote "not-a-number" ++ " argument: " ++ quote arg)
  -- blanks and plus signs at the front are not printed, so they do not count
  let text := arg.toList.dropWhile fun c => c = '+' || c = ' ' || c = '\t' || c = '\n' ||
    c = '\r' || c = '\x0b' || c = '\x0c'
  let point := text.idxOf? '.'
  let places : Option Int := if point.isNone && !text.contains 'p' then some 0 else none
  if text.contains 'x' || text.contains 'X' || !value.isFinite then
    return ⟨value, places, 0⟩
  let len : Int := text.length
  let (places, width) := match point with
    | some dp =>
      let frac := (text.drop (dp + 1)).takeWhile fun c => c ≠ 'e' && c ≠ 'E'
      let extra : Int := if frac.isEmpty then -1
        else if dp = 0 || !(text.getD (dp - 1) ' ').isDigit then 1 else 0
      (some (frac.length : Int), len + extra)
    | none => (places, len)
  let e := (text.idxOf? 'e').orElse fun _ => text.idxOf? 'E'
  match e, places with
  | some ei, some p =>
    -- the exponent is not printed; a negative one adds places, a positive one digits
    let x := exponentValue (text.drop (ei + 1))
    let width := width - (len - ei)
    if x < 0 then
      let width := match point with
        | some dp => if ei = dp + 1 then width + 1 else width
        | none => width + 1
      pure ⟨value, some (p - x), width - x⟩
    else pure ⟨value, some p, width + x⟩
  | _, _ => pure ⟨value, places, width⟩

/-- A format of `seq`: the text before its one conversion, the conversion, and the text after
it. -/
structure SeqFormat where
  front : String
  spec : Format.Spec
  back : String

/-- Reads the text before the conversion of a format: `%%` stands for `%`. The text and the
rest from the `%` of the conversion, none when there is none. -/
def formatFront : List Char → Option (List Char × List Char)
  | [] => none
  | '%' :: '%' :: r => (formatFront r).map fun (t, rest) => ('%' :: t, rest)
  | '%' :: r => some ([], '%' :: r)
  | c :: r => (formatFront r).map fun (t, rest) => (c :: t, rest)

/-- Reads the text after the conversion of a format, none when another conversion follows. -/
def formatBack : List Char → Option (List Char)
  | [] => some []
  | '%' :: '%' :: r => (formatBack r).map ('%' :: ·)
  | '%' :: _ => none
  | c :: r => (formatBack r).map (c :: ·)

/-- Reads a format of `-f`, or the complaint about it. -/
def parseSeqFormat (fmt : String) : Except String SeqFormat :=
  let quoted := "format " ++ quote fmt
  match formatFront fmt.toList with
  | none => .error (quoted ++ " has no % directive")
  | some (front, rest) =>
    let cs := rest.drop 1
    let flags := cs.takeWhile fun c => c = '-' || c = '+' || c = '#' || c = '0' || c = ' ' || c = '\x27'
    let cs := cs.drop flags.length
    let width := cs.takeWhile Char.isDigit
    let cs := cs.drop width.length
    let (precision, cs) := match cs with
      | '.' :: r =>
        let p := r.takeWhile Char.isDigit
        (some ((String.ofList p).toNat?.getD 0), r.drop p.length)
      | _ => (none, cs)
    let cs := match cs with
      | 'L' :: r => r
      | r => r
    match cs with
    | [] => .error (quoted ++ " ends in %")
    | conv :: after =>
      if !"efgaEFGA".toList.contains conv then
        .error (quoted ++ " has unknown %" ++ String.singleton conv ++ " directive")
      else
        match formatBack after with
        | none => .error (quoted ++ " has too many % directives")
        | some back =>
          .ok ⟨String.ofList front, ⟨flags, (String.ofList width).toNat?, precision, conv⟩,
            String.ofList back⟩

/-- The conversion `seq` uses without `-f`: fixed places when all operands show them (padded
to a width with `-w`), else `%g`. -/
def defaultSpec (equal : Bool) (first step last : SeqOperand) : Format.Spec :=
  let prec : Option Int := match first.places, step.places with
    | some a, some b => some (max a b)
    | _, _ => none
  match prec, last.places with
  | some p, some lp =>
    if equal then
      let fp := first.places.getD 0
      let firstWidth := first.width + (p - fp) + (if fp = 0 && p ≠ 0 then 1 else 0)
      let lastWidth := last.width + (p - lp) - (if lp ≠ 0 && p = 0 then 1 else 0) +
        (if lp = 0 && p ≠ 0 then 1 else 0)
      let w := max firstWidth lastWidth
      if w < 0 then ⟨[], none, none, 'g'⟩ else ⟨['0'], some w.toNat, some p.toNat, 'f'⟩
    else ⟨[], none, some p.toNat, 'f'⟩
  | _, _ => ⟨[], none, none, 'g'⟩

/-- Whether a text is made of decimal digits only, at least one. -/
def allDigits (s : String) : Bool :=
  !s.isEmpty && s.all Char.isDigit

/-- Prints whole numbers from `a` by `step` up to `b` (without end when `b` is none), each
followed by the separator but the last, which a newline follows; in pieces of a thousand. -/
def countWhole (sep : String) (step : Nat) (b : Option Nat) : Nat → Nat → Prog Unit
  | 0, _ => pure ()
  | fuel + 1, a => do
    let upto := (List.range 1000).map fun j => a + j * step
    let shown := upto.takeWhile fun v => b.all (v ≤ ·)
    let finished := shown.length < 1000 || b.any (a + 1000 * step > ·)
    let text := String.join (shown.zipIdx.map fun (v, j) =>
      toString v ++ (if finished && j + 1 = shown.length then "\n" else sep))
    Prog.putStr 1 text
    if !finished then countWhole sep step b fuel (a + 1000 * step)

/-- Whether `x` is past `last`, going by a step of the given sign. -/
def pastLast (down : Bool) (x last : Binary) : Bool :=
  match Binary.compareValues x last with
  | some o => if down then o = .lt else o = .gt
  | none => false

/-- Prints the numbers `first + i · step` for `i` from `i` on, each rounded to 64 bits: `x` is
the next to print and `prev` the text of the one before it. -/
def countFloats (render : Binary → String) (core : Binary → String) (sep : String)
    (first step last : Binary) : Nat → Nat → Binary → String → Prog Unit
  | 0, _, _, _ => Prog.putStr 1 "\n"
  | fuel + 1, i, x, acc => do
    let acc := acc ++ render x
    let next := Binary.add 64 first (Binary.mul 64 (Binary.ofNat 64 i) step)
    let down := step.isNegative
    if pastLast down next last then
      -- a number just past the last that shows as the last does is still printed
      let nextText := core next
      let same := match Binary.read 64 nextText.toList with
        | some (v, _, []) => Binary.compareValues v last = some .eq
        | _ => false
      if same && core x ≠ nextText then Prog.putStr 1 (acc ++ sep ++ render next ++ "\n")
      else Prog.putStr 1 (acc ++ "\n")
    else
      let acc := acc ++ sep
      if i % 1000 = 0 then
        Prog.putStr 1 acc
        countFloats render core sep first step last fuel (i + 1) next ""
      else countFloats render core sep first step last fuel (i + 1) next acc

/-- How many numbers at most lie from `first` to `last` by `step`, and two more. -/
def countBound (first step last : Binary) : Nat :=
  match first, step, last with
  | .finite nf mf ef, .finite ns ms es, .finite nl ml el =>
    let e := min ef (min es el)
    let v (n : Bool) (m : Nat) (x : Int) : Int := (if n then -(m : Int) else m) * Int.pow 2 (x - e).toNat
    let s := v ns ms es
    if s = 0 then 2 else ((v nl ml el - v nf mf ef) / s).toNat + 3
  | _, _, _ => 1000000

/-- The options of `seq`: they end at the first operand or negative number. -/
def seqOptions : OptSpec where
  flags := ['w']
  withArg := ['f', 's']
  longs := [("equal-width", 'w'), ("format", 'f'), ("separator", 's'), ("help", helpLetter),
    ("version", versionLetter)]
  inOrder := true
  numbers := true

/-- `seq`: numbers from the first to the last by the increment. -/
def seq (argv : List String) : Prog Nat := do
  let called := argv.headD "seq"
  match options seqOptions (argv.drop 1) with
  | .error e =>
    complain called (e.message called)
    pure 1
  | .ok p =>
    let sep := (p.arg? 's').getD "\n"
    let equal := p.has 'w'
    let operands := p.operands
    if operands.isEmpty then
      complain called ("missing operand" ++ tryHelp called)
      return 1
    if operands.length > 3 then
      complain called ("extra operand " ++ quote (operands.getD 3 "") ++ tryHelp called)
      return 1
    let format ← match p.arg? 'f' with
      | some f =>
        match parseSeqFormat f with
        | .ok fmt => pure (some fmt)
        | .error msg =>
          complain called msg
          return 1
      | none => pure none
    if format.isSome && equal then
      complain called ("format string may not be specified when printing equal width strings" ++ tryHelp called)
      return 1
    let simple := format.isNone && !equal && sep.utf8ByteSize = 1
    -- whole operands are counted exactly
    let wholeStep : Option Nat := match operands with
      | [_, s, _] => if allDigits s then s.toNat?.filter fun n => 0 < n && n ≤ 200 else none
      | _ => some 1
    if simple && operands.all allDigits && wholeStep.isSome then
      let (a, b) := match operands with
        | [l] => (1, l.toNat?.getD 0)
        | f :: rest => (f.toNat?.getD 0, (rest.getLast?.bind String.toNat?).getD 0)
        | [] => (1, 0)
      let step := wholeStep.getD 1
      if a ≤ b then countWhole sep step (some b) ((b - a) / step / 1000 + 2) a
      return 0
    -- the operands are read in order, the step checked before the last is read
    let one : SeqOperand := ⟨Binary.ofNat 64 1, some 0, 1⟩
    let scanned : Except String (SeqOperand × SeqOperand × SeqOperand) := do
      match operands with
      | [l] => pure (one, one, ← scanOperand l)
      | [f, l] =>
        let f ← scanOperand f
        pure (f, one, ← scanOperand l)
      | f :: s :: l :: _ =>
        let f ← scanOperand f
        let st ← scanOperand s
        if Binary.compareValues st.value (.finite false 0 0) = some .eq then
          throw ("invalid Zero increment value: " ++ quote s)
        pure (f, st, ← scanOperand l)
      | [] => pure (one, one, one)
    match scanned with
    | .error msg =>
      complain called (msg ++ tryHelp called)
      pure 1
    | .ok (first, step, last) =>
      let zero : Binary := .finite false 0 0
      let nonNegative := Binary.compareValues first.value zero != some .lt
      let stepOk := Binary.compareValues step.value zero = some .gt &&
        Binary.compareValues step.value (Binary.ofNat 64 200) != some .gt
      let whole (o : SeqOperand) : String := Format.floating 64 ⟨[], none, some 0, 'f'⟩ o.value
      if simple && first.value.isFinite && first.places = some 0 && step.places = some 0 &&
          last.places = some 0 && nonNegative && stepOk && !(whole first).startsWith "-" &&
          !(last.value.isFinite && (whole last).startsWith "-") then
        let a := (whole first).toNat?.getD 0
        let b := if last.value.isFinite then (whole last).toNat? else none
        let s := (whole step).toNat?.getD 1
        if b.all (a ≤ ·) then countWhole sep s b (((b.getD a) - a) / s / 1000 + 2) a
        return 0
      let fmt : SeqFormat := format.getD ⟨"", defaultSpec equal first step last, ""⟩
      let core (v : Binary) : String := Format.floating 64 fmt.spec v
      let render (v : Binary) : String := fmt.front ++ core v ++ fmt.back
      if !pastLast step.value.isNegative first.value last.value then
        countFloats render core sep first.value step.value last.value
          (countBound first.value step.value last.value) 1 first.value ""
      pure 0

end Tool

end JobControl.Host
