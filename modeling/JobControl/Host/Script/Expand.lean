import JobControl.Host.Script.Context
import JobControl.Host.Script.Parse
import JobControl.Host.Script.Pattern
import JobControl.Host.Script.Arith
import JobControl.Text.Utf8

/-!
# Shell scripts: expanding words

A word becomes fields in four steps:

1. each part is expanded to text: parameters (with the operators of `${...}`), command
   substitutions (the output of the commands, run in a child, without its trailing newlines),
   arithmetic and `~`;
2. text from unquoted expansions is split into fields at the characters of `IFS` (blanks
   collapse, any other character of `IFS` ends a field); `"$@"` gives one field per
   positional parameter;
3. a field with an unquoted `*`, `?` or `[` is replaced by the file names it matches, in
   order, unless none match;
4. quotes are gone: what remains is plain text.

Assignments, redirection targets and the subject of `case` are expanded without steps 2 and 3.

* `Seg` is expanded text with its quoting; `Seg.fields` does step 2;
* `Expansion` is the monad of expansion: it may change variables (`${x=...}`, `$((x=1))`),
  records the status of the last command substitution, and may fail, which ends a
  non-interactive shell;
* `expandFields`, `expandText` and `expandPattern` are the three uses.
-/

namespace JobControl.Host.Script

open Sys

/-- A stretch of expanded text: whether it was quoted, and whether it may be split into fields;
or the boundary between two positional parameters. -/
inductive Seg
  | text (s : String) (quoted : Bool) (split : Bool)
  | cut

/-- The text of expanded pieces, positional parameters joined by a space. -/
def Seg.join (segs : List Seg) : String :=
  String.join (segs.map fun | .text s _ _ => s | .cut => " ")

/-- The pattern characters of expanded pieces: quoted text stands for itself. -/
def Seg.patChars (segs : List Seg) : List PatChar :=
  segs.flatMap fun
    | .text s q _ => s.toList.map (⟨·, q⟩)
    | .cut => [⟨' ', false⟩]

/-- Fields being cut from expanded text. -/
structure Splitter where
  /-- The current field, last character first. -/
  current : List PatChar
  /-- Whether the current field exists, even if empty. -/
  started : Bool
  /-- Whether a blank just ended a field. -/
  afterBlank : Bool
  /-- The fields so far, last first. -/
  done : List (List PatChar)

namespace Splitter

/-- Ends the current field. -/
def emit (s : Splitter) : Splitter :=
  ⟨[], false, false, s.current.reverse :: s.done⟩

/-- Adds a character to the current field. -/
def push (s : Splitter) (c : PatChar) : Splitter :=
  { s with current := c :: s.current, started := true, afterBlank := false }

/-- Whether a character of `IFS` is a blank, which collapses with its neighbours. -/
def isBlank (c : Char) : Bool :=
  c = ' ' || c = '\t' || c = '\n'

/-- Takes one character of splittable text. -/
def splitChar (ifs : List Char) (s : Splitter) (c : Char) : Splitter :=
  if ifs.contains c then
    if isBlank c then
      if s.started then { s.emit with afterBlank := true } else s
    else if s.afterBlank && !s.started then { s with afterBlank := false }
    else s.emit
  else s.push ⟨c, false⟩

/-- Takes one piece of expanded text. -/
def take (ifs : List Char) (s : Splitter) : Seg → Splitter
  | .text t true _ => { (t.toList.foldl (fun s c => s.push ⟨c, true⟩) s) with started := true }
  | .text t false false => t.toList.foldl (fun s c => s.push ⟨c, false⟩) s
  | .text t false true => t.toList.foldl (splitChar ifs) s
  | .cut => if s.started then s.emit else s

end Splitter

/-- Splits expanded pieces into fields at the characters of `ifs`. -/
def Seg.fields (ifs : String) (segs : List Seg) : List (List PatChar) :=
  let s := segs.foldl (Splitter.take ifs.toList) ⟨[], false, false, []⟩
  let s := if s.started then s.emit else s
  s.done.reverse

/-- The state of an expansion: the frame, and the status of the last command substitution. -/
structure Expanding where
  frame : Frame
  substituted : Option Nat

/-- Expanding words: the frame may change, and an error ends the expansion. -/
abbrev Expansion := StateT Expanding (ExceptT String Prog)

namespace Expansion

/-- Runs a program of the process. -/
def lift {α : Type} (p : Prog α) : Expansion α := fun s =>
  ExceptT.mk (p.bind fun a => pure (.ok (a, s)))

/-- Fails with a complaint. -/
def fail {α : Type} (msg : String) : Expansion α := fun _ =>
  ExceptT.mk (pure (.error msg))

/-- The current frame. -/
def frame : Expansion Frame := do
  pure (← get).frame

/-- Sets a variable; with `set -a` it is exported too. -/
def setVar (name value : String) : Expansion Unit :=
  modify fun s =>
    let f := s.frame.set name value
    let f := if f.on "allexport" && !f.exported.contains name then
        { f with exported := f.exported ++ [name] }
      else f
    { s with frame := f }

end Expansion

open Expansion

/-- Commands run one after the other. -/
def Cmd.ofList : List Cmd → Cmd
  | [] => .empty
  | [c] => c
  | c :: cs => .seq c (Cmd.ofList cs)

/-- A text without its trailing newlines. -/
def dropTrailingNewlines (s : String) : String :=
  String.ofList (s.toList.reverse.dropWhile (· = '\n')).reverse

/-- The output of commands run in a child whose output goes to a pipe. -/
def substitute (src : String) : Expansion String := do
  let f ← frame
  let io := f.io
  match parseCommands src with
  | .error e =>
    lift (f.complain e.message)
    modify fun s => { s with substituted := some 2 }
    pure ""
  | .ok cmds =>
    match ← lift (Prog.ask .pipe) with
    | .error _ => fail "Cannot create pipe"
    | .ok (r, w) =>
      let childIo := Io.set (Io.close io 1) 1 w
      let child := f.forChild (childIo.map (·.1))
      let spawned ← lift (Prog.ask (.spawn (.subshell (Cmd.ofList cmds) child []) childIo))
      let _ ← lift (Prog.ask (.close w))
      match spawned with
      | .error _ =>
        let _ ← lift (Prog.ask (.close r))
        fail "Cannot fork"
      | .ok pid =>
        let out ← lift (Prog.readAll r)
        let _ ← lift (Prog.ask (.close r))
        let ending ← lift (Prog.awaitEnd pid Prog.interruptFuel)
        let status := match ending with
          | .ok e => e.status
          | .error _ => 127
        modify fun s => { s with substituted := some status }
        pure (dropTrailingNewlines (Text.ofBytes (out.toOption.getD ByteArray.empty)))

/-- The home directory of a user in the lines of a password file. -/
def homeOf (passwd : String) (user : String) : Option String :=
  (passwd.splitOn "\n").findSome? fun line =>
    match line.splitOn ":" with
    | name :: _ :: _ :: _ :: _ :: home :: _ => if name = user then some home else none
    | _ => none

/-- The home directory a tilde prefix names: `HOME` for `~` alone, else the user's home in
`/etc/passwd`; an unknown user leaves the prefix as it is. -/
def tildeHome (user : String) : Expansion String := do
  if user.isEmpty then return ((← frame).get? "HOME").getD "~"
  match ← lift (Prog.readPath "/etc/passwd") with
  | .ok data =>
    match homeOf (Text.ofBytes data) user with
    | some home => pure home
    | none => pure ("~" ++ user)
  | .error _ => pure ("~" ++ user)

/-- The pieces of the positional parameters: one quoted field each for `"$@"`, one text for
`"$*"` joined by the first character of `IFS` (a space when it is unset, nothing when it is
empty), and splittable text with boundaries unquoted. -/
def positionalSegs (params : List String) (name : String) (quoted : Bool) (ifs : Option String) :
    List Seg :=
  if quoted && name = "*" then
    let sep := match ifs with
      | none => " "
      | some s => match s.toList with
        | c :: _ => String.singleton c
        | [] => ""
    [.text (sep.intercalate params) true false]
  else
    let one (p : String) : Seg := .text p quoted (!quoted)
    match params with
    | [] => []
    | p :: ps => one p :: ps.flatMap fun q => [.cut, one q]

mutual

/-- Expands the parts of a word in order. -/
def expandParts : Nat → List Part → Expansion (List Seg)
  | 0, _ => fail "expansion nested too deeply"
  | _ + 1, [] => pure []
  | fuel + 1, p :: ps => do
    let a ← expandPart fuel p
    let b ← expandParts fuel ps
    pure (a ++ b)

/-- Expands one part of a word. -/
def expandPart : Nat → Part → Expansion (List Seg)
  | 0, _ => fail "expansion nested too deeply"
  | fuel + 1, p =>
    match p with
    | .lit s => pure [.text s false false]
    | .quoted s => pure [.text s true false]
    | .tilde user => do
      pure [.text (← tildeHome user) true false]
    | .command src q => do
      let s ← substitute src
      pure [.text s q (!q)]
    | .arith src q => do
      let segs ← expandParts fuel (Word.ofSource src true)
      let f ← frame
      match Arith.evaluate (Seg.join segs) f.vars f.readonly with
      | .error e => fail e.message
      | .ok (v, assigned) =>
        for (n, value) in assigned do
          setVar n value
        pure [.text (toString v) q (!q)]
    | .param name op q => paramSegs fuel name op q

/-- Expands a parameter with its operator. -/
def paramSegs : Nat → String → ParamOp → Bool → Expansion (List Seg)
  | 0, _, _, _ => fail "expansion nested too deeply"
  | fuel + 1, name, op, q => do
    let f ← frame
    let value := f.param? name
    let given (colon : Bool) := value.isSome && (!colon || (value.getD "") != "")
    let plain : List Seg :=
      if name = "@" || name = "*" then positionalSegs f.params name q (f.get? "IFS")
      else [.text (value.getD "") q (!q)]
    let unsetError : Expansion (List Seg) := fail (name ++ ": parameter not set")
    let checked (x : Expansion (List Seg)) : Expansion (List Seg) :=
      if value.isNone && f.on "nounset" && name ≠ "@" && name ≠ "*" then unsetError else x
    match op with
    | .invalid => fail "Bad substitution"
    | .plain => checked (pure plain)
    | .length => checked (pure [.text (toString (value.getD "").length) q (!q)])
    | .useDefault colon w =>
      if given colon then pure plain else expandParts fuel (Word.ofSource w q)
    | .assignDefault colon w =>
      if given colon then pure plain
      else do
        let segs ← expandParts fuel (Word.ofSource w q)
        let v := Seg.join segs
        if isName name then
          if f.readonly.contains name then fail (name ++ ": is read only")
          else
            setVar name v
            pure [.text v q (!q)]
        else fail (name ++ ": bad variable name")
    | .errorIfUnset colon w =>
      if given colon then pure plain
      else do
        let segs ← expandParts fuel (Word.ofSource w q)
        let msg := if !w.isEmpty then Seg.join segs
          else if colon then "parameter not set or null" else "parameter not set"
        fail (name ++ ": " ++ msg)
    | .alternative colon w =>
      if given colon then expandParts fuel (Word.ofSource w q) else pure []
    | .dropPrefix longest w => checked do
      let segs ← expandParts fuel (Word.ofSource w false)
      let pat := Pattern.compile (Seg.patChars segs)
      pure [.text (Pattern.dropPrefix pat longest (value.getD "")) q (!q)]
    | .dropSuffix longest w => checked do
      let segs ← expandParts fuel (Word.ofSource w false)
      let pat := Pattern.compile (Seg.patChars segs)
      pure [.text (Pattern.dropSuffix pat longest (value.getD "")) q (!q)]

end

/-- How deep expansions may nest. -/
def expansionDepth : Nat := 4096

/-- Expands a word to one text, without splitting or file names. -/
def expandText (w : Word) : Expansion String := do
  let segs ← expandParts expansionDepth w
  pure (Seg.join segs)

/-- Expands a word to a pattern: quoted characters stand for themselves. -/
def expandPattern (w : Word) : Expansion Pattern := do
  let segs ← expandParts expansionDepth w
  pure (Pattern.compile (Seg.patChars segs))

/-- Whether pattern characters hold an unquoted `*`, `?` or `[`. -/
def hasGlob (cs : List PatChar) : Bool :=
  cs.any fun c => !c.quoted && (c.char = '*' || c.char = '?' || c.char = '[')

/-- Splits pattern characters at each `/`. -/
def splitSlash (cs : List PatChar) : List (List PatChar) :=
  let (cur, acc) := cs.foldl (fun (acc : List PatChar × List (List PatChar)) c =>
    if c.char = '/' then ([], acc.1.reverse :: acc.2) else (c :: acc.1, acc.2)) ([], [])
  (cur.reverse :: acc).reverse

/-- Joins a directory prefix and a name. -/
def joinPath (base name : String) : String :=
  if base.isEmpty then name else if base = "/" then "/" ++ name else base ++ "/" ++ name

/-- The paths that match the remaining components, from the given bases. -/
def globFrom : List (List PatChar) → List String → Prog (List String)
  | [], bases => pure bases
  | comp :: rest, bases => do
    if !hasGlob comp then
      let name := String.ofList (comp.map (·.char))
      let next := bases.map (joinPath · name)
      if rest.isEmpty then
        next.filterM fun p => do
          match ← Prog.ask (.stat (Text.decodeBytes p) false) with
          | .ok _ => pure true
          | .error _ => pure false
      else globFrom rest next
    else
      let pat := Pattern.compile comp
      let hidden := match comp with
        | ⟨'.', _⟩ :: _ => true
        | _ => false
      let found ← bases.mapM fun base => do
        match ← Prog.ask (.listDir (Text.decodeBytes (if base.isEmpty then "." else base))) with
        | .ok names =>
          let names := names.map Text.encodeBytes
          let ok := names.filter fun n =>
            (hidden || !n.startsWith ".") && Pattern.accepts pat n.toList
          pure ((ok.mergeSort (fun a b => decide (a ≤ b))).map (joinPath base ·))
        | .error _ => pure []
      globFrom rest found.flatten

/-- The file names a field matches, in order; the field itself when none match. -/
def glob (cs : List PatChar) : Prog (List String) := do
  let plain := String.ofList (cs.map (·.char))
  if !hasGlob cs then return [plain]
  let comps := splitSlash cs
  let (start, comps) := match comps with
    | [] :: rest => ("/", rest)
    | _ => ("", comps)
  let found ← globFrom comps [start]
  pure (if found.isEmpty then [plain] else found)

/-- Expands words to fields: split, and replaced by matching file names. -/
def expandFields (ws : List Word) : Expansion (List String) := do
  let fields ← ws.mapM fun w => do
    let segs ← expandParts expansionDepth w
    let f ← frame
    let ifs := (f.get? "IFS").getD " \t\n"
    let fs := Seg.fields ifs segs
    let names ← if f.on "noglob" then pure (fs.map fun cs => [String.ofList (cs.map (·.char))])
      else lift (fs.mapM glob)
    pure names.flatten
  pure fields.flatten

/-- Runs an expansion from a frame: the result or the complaint, and the state after. -/
def Expansion.run {α : Type} (x : Expansion α) (f : Frame) :
    Prog (Except String (α × Expanding)) :=
  (StateT.run x ⟨f, none⟩).run

end JobControl.Host.Script
