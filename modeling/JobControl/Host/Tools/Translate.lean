import JobControl.Host.Tools.Utility
import JobControl.Host.Regex.Syntax

/-!
# Utilities: tr

`tr` copies its input to its output, translating, deleting or squeezing bytes. A set is written
with bytes, escapes (`\n`, `\t`, `\\`, `\ooo` in octal and the others of C), ranges `a-z`,
classes `[:alpha:]`, `[=c=]` for the byte `c`, and in the second set `[c*n]` for `n` copies of
`c` (`[c*]` for as many as fill the first set's length).

* `tr SET1 SET2` maps the `i`-th byte of the first set to the `i`-th of the second; the second
  is lengthened by repeating its last byte (with `-t` the first is cut to the second's length);
  a byte listed twice in the first set maps as its last listing says;
* `-d` deletes the bytes of the first set; `-c` takes the bytes not in it, in order;
* `-s` squeezes each run of one byte of the last set into one.
-/

namespace JobControl.Host

open Sys

namespace Tool

/-- A piece of a set: bytes as listed, a byte repeated to fill the set, a named class, or an
equivalence class `[=c=]`. -/
inductive SetPiece
  | bytes (bs : List UInt8)
  | fill (b : UInt8)
  | named (name : String)
  | equiv (b : UInt8)

/-- The value of an octal digit. -/
def octalDigit (b : UInt8) : Option Nat :=
  if 48 ≤ b && b ≤ 55 then some (b.toNat - 48) else none

/-- Reads one byte of a set, with its escape: the byte, and the rest. -/
def setByte : List UInt8 → Option (UInt8 × List UInt8)
  | [] => none
  | 92 :: rest =>
    match rest with
    | [] => some (92, [])
    | c :: more =>
      match octalDigit c with
      | some d =>
        let (v, more) := match more with
          | e :: more' =>
            match octalDigit e with
            | some d2 =>
              match more' with
              | f :: more'' =>
                match octalDigit f with
                | some d3 => if d * 64 + d2 * 8 + d3 < 256 then (d * 64 + d2 * 8 + d3, more'')
                    else (d * 8 + d2, f :: more'')
                | none => (d * 8 + d2, more')
              | [] => (d * 8 + d2, more')
            | none => (d, more)
          | [] => (d, more)
        some (UInt8.ofNat v, more)
      | none =>
        let v : UInt8 := match c with
          | 97 => 7
          | 98 => 8
          | 102 => 12
          | 110 => 10
          | 114 => 13
          | 116 => 9
          | 118 => 11
          | _ => c
        some (v, more)
  | b :: rest => some (b, rest)

/-- The bytes of a named class, in order. -/
def classBytes (name : String) : List UInt8 :=
  (List.range 256).filterMap fun n =>
    let b := UInt8.ofNat n
    if byteClassAdmits name b then some b else none

/-- Reads a set into pieces. -/
def readSet (second : Bool) : Nat → List UInt8 → Except String (List SetPiece)
  | 0, _ => .ok []
  | _ + 1, [] => .ok []
  | fuel + 1, bs =>
    -- a class, an equivalence or a repetition in brackets
    let bracketed : Option (Except String (SetPiece × List UInt8)) :=
      match bs with
      | 91 :: 58 :: rest =>
        let name := rest.takeWhile (· ≠ 58)
        let after := rest.drop name.length
        match after with
        | 58 :: 93 :: more =>
          let n := String.fromUTF8! (ByteArray.mk name.toArray)
          if classNames.contains n then some (.ok (.named n, more))
          else some (.error ("invalid character class " ++ quote n))
        | _ => none
      | 91 :: 61 :: c :: 61 :: 93 :: more => some (.ok (.equiv c, more))
      | 91 :: rest =>
        match setByte rest with
        | some (c, 42 :: more) =>
          let digits := more.takeWhile fun b => 48 ≤ b && b ≤ 57
          match more.drop digits.length with
          | 93 :: after =>
            if digits.isEmpty then some (.ok (.fill c, after))
            else
              let n := if digits.head? = some 48 then
                  digits.foldl (fun acc d => acc * 8 + (d.toNat - 48)) 0
                else digits.foldl (fun acc d => acc * 10 + (d.toNat - 48)) 0
              if n = 0 then some (.ok (.fill c, after))
              else some (.ok (.bytes (List.replicate n c), after))
          | _ => none
        | _ => none
      | _ => none
    match bracketed with
    | some (.error e) => .error e
    | some (.ok (piece, rest)) => (readSet second fuel rest).map (piece :: ·)
    | none =>
      match setByte bs with
      | none => .ok []
      | some (lo, rest) =>
        match rest with
        | 45 :: more@(_ :: _) =>
          match setByte more with
          | some (hi, after) =>
            if hi < lo then
              .error ("range-endpoints of '" ++ Text.decodeLossy (ByteArray.mk #[lo]) ++ "-" ++
                Text.decodeLossy (ByteArray.mk #[hi]) ++ "' are in reverse collating sequence order")
            else
              let range := (List.range (hi.toNat - lo.toNat + 1)).map fun k => UInt8.ofNat (lo.toNat + k)
              (readSet second fuel after).map (.bytes range :: ·)
          | none => (readSet second fuel rest).map (.bytes [lo] :: ·)
        | _ => (readSet second fuel rest).map (.bytes [lo] :: ·)

/-- The bytes a piece stands for, apart from filling. -/
def SetPiece.fixed : SetPiece → List UInt8
  | .bytes bs => bs
  | .fill _ => []
  | .named n => classBytes n
  | .equiv b => [b]

/-- The bytes of a set; a filling piece takes what is left of `target` bytes. -/
def setBytes (pieces : List SetPiece) (target : Nat) : List UInt8 :=
  let fixed := pieces.foldl (fun n p => n + p.fixed.length) 0
  pieces.flatMap fun p => match p with
    | .fill b => List.replicate (target - fixed) b
    | p => p.fixed

/-- A unit of a set when translating: a byte, or a whole case class (`true` for upper case),
which maps onto a case class of the other set as a whole. -/
inductive Unit
  | byte (b : UInt8)
  | caseClass (upper : Bool)

/-- The units of a set's bytes. -/
def units (pieces : List SetPiece) (bytes : List UInt8) : List Unit :=
  let caseOf (p : SetPiece) : Option Bool := match p with
    | .named "upper" => some true
    | .named "lower" => some false
    | _ => none
  let (us, rest) := pieces.foldl (fun (acc : List Unit × List UInt8) p =>
    let (us, rest) := acc
    let size := match p with
      | .fill _ => rest.length - (pieces.filter (fun q => match q with
          | .fill _ => false
          | _ => true)).foldl (fun n q => n + q.fixed.length) 0
      | q => q.fixed.length
    match caseOf p with
    | some upper => (us ++ [.caseClass upper], rest.drop size)
    | none => (us ++ (rest.take size).map .byte, rest.drop size)) ([], bytes)
  us ++ rest.map .byte

/-- The bytes of a case class. -/
def caseBytes (upper : Bool) : List UInt8 :=
  classBytes (if upper then "upper" else "lower")

/-- Pairs the units of the two sets of a translation: a case class of the second set must
meet a case class of the first, and maps its letters to their other case (or to
themselves); a case class of the first set that meets bytes is taken byte by byte. -/
def pairUnits : Nat → List Unit → List Unit → Except String (List (UInt8 × UInt8))
  | 0, _, _ => .ok []
  | fuel + 1, s1, s2 =>
    match s1, s2 with
    | .caseClass u1 :: r1, .caseClass u2 :: r2 =>
      let pairs := (caseBytes u1).map fun b =>
        (b, if u1 = u2 then b else if u2 then b - 32 else b + 32)
      (pairUnits fuel r1 r2).map (pairs ++ ·)
    | _, .caseClass _ :: _ => .error "misaligned [:upper:] and/or [:lower:] construct"
    | .caseClass u1 :: r1, _ => pairUnits fuel ((caseBytes u1).map .byte ++ r1) s2
    | .byte a :: r1, .byte b :: r2 => (pairUnits fuel r1 r2).map ((a, b) :: ·)
    | _, _ => .ok []

/-- Squeezes runs of one byte of the set into one. -/
def squeeze (inSet : UInt8 → Bool) (d : ByteArray) : ByteArray :=
  let (out, _) := d.foldl (fun (acc : ByteArray × Option UInt8) b =>
    if acc.2 = some b && inSet b then acc else (acc.1.push b, some b)) (ByteArray.empty, none)
  out

/-- `tr`: translates, deletes or squeezes the bytes of its input. -/
def tr (argv : List String) : Prog Nat := do
  let called := argv.headD "tr"
  match options { flags := ['c', 'C', 'd', 's', 't'], withArg := [], longs := [("complement", 'c'), ("delete", 'd'), ("squeeze-repeats", 's'), ("truncate-set1", 't'), ("help", helpLetter), ("version", versionLetter)] } (argv.drop 1) with
  | .error e =>
    complain called (e.message called)
    pure 1
  | .ok p =>
    let complement := p.has 'c' || p.has 'C'
    let delete := p.has 'd'
    let squeezing := p.has 's'
    let translating := !delete && p.operands.length ≥ 2
    let needed := if delete && squeezing then 2 else if delete || (squeezing && p.operands.length < 2) then 1 else 2
    let hint := tryHelp called
    if p.operands.isEmpty then
      complain called ("missing operand" ++ hint)
      return 1
    if p.operands.length < needed then
      let why := if delete && squeezing then "Two strings must be given when both deleting and squeezing repeats."
        else "Two strings must be given when translating."
      complain called ("missing operand after " ++ quote (p.operands.headD "") ++ "\n" ++ why ++ hint)
      return 1
    if p.operands.length > needed then
      let extra := p.operands.getD needed ""
      let why := if delete && !squeezing then "\nOnly one string may be given when deleting without squeezing repeats."
        else ""
      complain called ("extra operand " ++ quote extra ++ why ++ hint)
      return 1
    let text1 := Regex.codes (p.operands.headD "")
    let text2 := Regex.codes (p.operands.getD 1 "")
    let first := readSet false (text1.length + 1) text1
    let second := readSet true (text2.length + 1) text2
    let fills (ps : List SetPiece) : Nat := (ps.filter fun q => match q with
      | .fill _ => true
      | _ => false).length
    let checked : Except String (List SetPiece × List SetPiece) := do
      let s1 ← first
      let s2 ← second
      if fills s1 > 0 then throw "the [c*] repeat construct may not appear in string1"
      if p.operands.length ≥ 2 then
        if fills s2 > 1 then throw "only one [c*] repeat construct may appear in string2"
        if translating then
          if s2.any (fun q => match q with
              | .equiv _ => true
              | _ => false) then
            throw "[=c=] expressions may not appear in string2 when translating"
          if s2.any (fun q => match q with
              | .named n => n != "upper" && n != "lower"
              | _ => false) then
            throw "when translating, the only character classes that may appear in\nstring2 are 'upper' and 'lower'"
        else if fills s2 > 0 then
          throw "the [c*] construct may appear in string2 only when translating"
      pure (s1, s2)
    match checked with
    | .error e =>
      complain called e
      pure 1
    | .ok (s1, s2) =>
      let set1 := setBytes s1 0
      let set1 := if complement then
          (List.range 256).filterMap fun n =>
            let b := UInt8.ofNat n
            if set1.contains b then none else some b
        else set1
      let set1 := if translating && p.has 't' then set1.take (setBytes s2 set1.length).length else set1
      let set2 := setBytes s2 set1.length
      if translating && set2.isEmpty && !set1.isEmpty then
        complain called "when not truncating set1, string2 must be non-empty"
        return 1
      let set2 := set2 ++ List.replicate (set1.length - set2.length) (set2.getLastD 0)
      let pairs := if complement then .ok (set1.zip set2)
        else pairUnits (4 * (set1.length + set2.length) + 8) (units s1 set1) (units s2 set2)
      let pairs ← match pairs with
        | .ok ps => pure ps
        | .error e => do
          complain called e
          return 1
      match ← Prog.readAll 0 with
      | .error e =>
        complain called ("read error: " ++ e.description)
        pure 1
      | .ok d =>
        let in1 (b : UInt8) := set1.contains b
        let out :=
          if delete then
            let kept := ByteArray.mk (d.toList.filter (!in1 ·)).toArray
            if squeezing then squeeze (set2.contains ·) kept else kept
          else if translating then
            let table := pairs.foldl (fun (t : Array UInt8) (a, b) => t.set! a.toNat b)
              ((List.range 256).map UInt8.ofNat).toArray
            let mapped := ByteArray.mk (d.toList.map fun b => table[b.toNat]!).toArray
            if squeezing then squeeze (set2.contains ·) mapped else mapped
          else squeeze in1 d
        Prog.put 1 out
        pure 0

end Tool

end JobControl.Host
