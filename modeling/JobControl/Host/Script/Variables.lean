import JobControl.Host.Script.Outcome

/-!
# Shell scripts: variables, options and the builtins that set them

* `Frame.assign` is an assignment as the script makes it: a read-only variable or a bad name
  is a complaint, and with `set -a` the variable is exported too.
* `takeOptions` reads a builtin's options the way the shell's builtins share: letters after
  `-`, up to `--`; a letter that takes an argument takes the rest of its word or the next.
* `declare` is `export` and `readonly`, `makeLocal` is `local` and `restoreLocals` undoes it
  when the function returns, `unsetNames` is `unset`, `setBuiltin` is `set`, `shiftParams`
  is `shift`.
* `getoptsStep` is one call of `getopts`: where the scan stands is kept in the frame
  (`optIndex`, `optOffset`), so that a loop walks the options one at a time.
* `readBuiltin` reads a line and splits it among variables: the last takes the rest of the
  line, and a byte after a backslash is never a separator.
* `aliasBuiltin` and `unaliasBuiltin` keep the aliases, listed in the order of the shell's
  table of aliases (`aliasBucket`).
-/

namespace JobControl.Host.Script

open Sys

namespace Frame

/-- Marks a variable to be passed to the programs the script runs. -/
def markExported (f : Frame) (name : String) : Frame :=
  if f.exported.contains name then f else { f with exported := f.exported ++ [name] }

/-- Marks a variable read-only. -/
def markReadonly (f : Frame) (name : String) : Frame :=
  if f.readonly.contains name then f else { f with readonly := f.readonly ++ [name] }

/-- Sets a variable as an assignment of the script does, `OPTIND` and `PATH` with their
effects when `hooks`: a bad name or a read-only variable is a complaint, and with `set -a`
the variable is exported too. -/
def assignWith (hooks : Bool) (f : Frame) (name value : String) : Except String Frame :=
  if !isName name then .error (name ++ ": bad variable name")
  else if f.readonly.contains name then .error (name ++ ": is read only")
  else
    let f := if hooks then f.set name value else f.store name value
    .ok (if f.on "allexport" then f.markExported name else f)

/-- Sets a variable as an assignment of the script does. -/
def assign (f : Frame) (name value : String) : Except String Frame :=
  assignWith true f name value

/-- Sets variables in order, up to the first that cannot be set. -/
def assignAll (f : Frame) : List (String × String) → Frame × Option String
  | [] => (f, none)
  | (n, v) :: rest =>
    match f.assign n v with
    | .ok g => assignAll g rest
    | .error m => (f, some m)

/-- Removes a variable, unless it is read-only. -/
def remove (f : Frame) (name : String) : Except String Frame :=
  if f.readonly.contains name then .error (name ++ ": is read only")
  else .ok (f.unset name)

end Frame

/-- Reads a builtin's options: arguments that start with `-` (but not `-` alone), up to `--`,
each letter an option; a letter of `withArg` takes the rest of its argument, or the next
argument. The options in order, each with its argument (empty for the others), and the
operands. A letter not in `letters` is a complaint. -/
def takeOptions (letters withArg : List Char) (args : List String) :
    Except String (List (Char × String) × List String) :=
  go (args.foldl (fun n a => n + a.length + 1) 1) [] args
where
  /-- Reads the letters `cs` left of the current argument, then the arguments `args`. -/
  go : Nat → List Char → List String → Except String (List (Char × String) × List String)
    | 0, _, args => .ok ([], args)
    | _ + 1, [], [] => .ok ([], [])
    | fuel + 1, [], a :: rest =>
      match a.toList with
      | ['-', '-'] => .ok ([], rest)
      | '-' :: c :: cs => go fuel (c :: cs) rest
      | _ => .ok ([], a :: rest)
    | fuel + 1, c :: cs, args =>
      if !letters.contains c then .error ("Illegal option -" ++ String.singleton c)
      else if withArg.contains c then
        if cs.isEmpty then
          match args with
          | [] => .error ("No arg for -" ++ String.singleton c ++ " option")
          | v :: rest => (go fuel [] rest).map fun (os, ops) => ((c, v) :: os, ops)
        else (go fuel [] args).map fun (os, ops) => ((c, String.ofList cs) :: os, ops)
      else (go fuel cs args).map fun (os, ops) => ((c, "") :: os, ops)

/-- The lines that list variables as `export -p`, `readonly -p` and `set` print them: sorted
by name, each `lead` then `name='value'`, or the bare name when it is unset. -/
def listVariables (f : Frame) (lead : String) (names : List String) : String :=
  String.join ((names.mergeSort fun a b => decide (a ≤ b)).map fun n =>
    match f.get? n with
    | some v => lead ++ n ++ "=" ++ shellQuote v ++ "\n"
    | none => lead ++ n ++ "\n")

/-! ## `export`, `readonly`, `local`, `unset` -/

/-- `export` and `readonly` (`readonly` when `forReadonly`): with names, each is marked, and
`name=value` assigns first; without names, or with `-p`, the marked variables are listed. -/
def declare (forReadonly : Bool) (f : Frame) (args : List String) : Done :=
  let cmd := if forReadonly then "readonly" else "export"
  match takeOptions ['p'] [] args with
  | .error m => .failed f (cmd ++ ": " ++ m)
  | .ok (opts, names) =>
    if !opts.isEmpty || names.isEmpty then
      let marked := if forReadonly then f.readonly else f.exported
      ⟨f, listVariables f (cmd ++ " ") marked, .ok 0⟩
    else each cmd names f
where
  /-- Marks the names in turn. -/
  each (cmd : String) : List String → Frame → Done
    | [], g => .status g 0
    | a :: rest, g =>
      let mark (h : Frame) (n : String) :=
        if forReadonly then h.markReadonly n else h.markExported n
      match a.splitOn "=" with
      | [name] =>
        if (g.get? name).isSome || g.exported.contains name || g.readonly.contains name then
          each cmd rest (mark g name)
        else if isName name then each cmd rest (mark g name)
        else .failed g (cmd ++ ": " ++ name ++ ": bad variable name")
      | name :: pieces =>
        match g.assign name ("=".intercalate pieces) with
        | .ok h => each cmd rest (mark h name)
        | .error m => .failed g (cmd ++ ": " ++ m)
      | [] => .status g 0

/-- `local`, in a function: each variable keeps its value until the function returns, when
its value and marks come back; `name=value` also assigns, and `-` keeps the options. -/
def makeLocal (f : Frame) (args : List String) : Done :=
  match f.locals with
  | [] => .failed f "local: not in a function"
  | _ :: _ => each args f
where
  /-- Keeps what `saved` says in the innermost function's list. -/
  keep (g : Frame) (saved : Saved) : Frame :=
    match g.locals with
    | top :: outer => { g with locals := (saved :: top) :: outer }
    | [] => g
  /-- Makes the names local in turn. -/
  each : List String → Frame → Done
    | [], g => .status g 0
    | a :: rest, g =>
      if a = "-" then each rest (keep g (.options g.options))
      else
        let (name, value) := match a.splitOn "=" with
          | n :: v :: more => (n, some ("=".intercalate (v :: more)))
          | _ => (a, none)
        if !isName name then .failed g (name ++ ": bad variable name")
        else
          let g := keep g (.var name (g.get? name) (g.exported.contains name)
            (g.readonly.contains name))
          match value with
          | none => each rest g
          | some v =>
            match g.assign name v with
            | .ok h => each rest h
            | .error m => .failed g ("local: " ++ m)

/-- Undoes what `local` kept, newest first, when a function returns. -/
def restoreLocals (f : Frame) : List Saved → Frame
  | [] => f
  | .options on :: rest => restoreLocals { f with options := on } rest
  | .var name value exported readonly :: rest =>
    let g := match value with
      | some v => f.set name v
      | none => { f.unset name with exported := f.exported }
    let g := { g with
      exported := if exported then (g.markExported name).exported else g.exported.erase name
      readonly := if readonly then (g.markReadonly name).readonly else g.readonly.erase name }
    restoreLocals g rest

/-- `unset`: removes variables, or with `-f` functions. -/
def unsetNames (f : Frame) (args : List String) : Done :=
  match takeOptions ['v', 'f'] [] args with
  | .error m => .failed f ("unset: " ++ m)
  | .ok (opts, names) =>
    let functions := (opts.getLast?.map (·.1)) == some 'f'
    each functions names f
where
  /-- Removes the names in turn. -/
  each (functions : Bool) : List String → Frame → Done
    | [], g => .status g 0
    | n :: rest, g =>
      if functions then each functions rest { g with functions := g.functions.filter (·.1 ≠ n) }
      else if !isName n then .failed g ("unset: " ++ n ++ ": bad variable name")
      else
        match g.remove n with
        | .ok h => each functions rest h
        | .error m => .failed g ("unset: " ++ m)

/-! ## `set` and `shift` -/

/-- The positional parameters replaced, which starts `getopts` again. -/
def Frame.withParams (f : Frame) (ps : List String) : Frame :=
  { f with params := ps, optIndex := 1, optOffset := none }

/-- The long name of an option letter. -/
def optionOfLetter? (c : Char) : Option String :=
  (optionTable.find? fun (_, l) => l == some c).map (·.1)

/-- Turns an option on or off. -/
def Frame.setOption (f : Frame) (name : String) (on : Bool) : Frame :=
  let rest := f.options.erase name
  { f with options := if on then rest ++ [name] else rest }

/-- What `set -o` prints, and `set +o` when `asCommands`. -/
def optionListing (f : Frame) (asCommands : Bool) : String :=
  if asCommands then
    String.join (optionTable.map fun (n, _) =>
      "set " ++ (if f.on n then "-" else "+") ++ "o " ++ n ++ "\n")
  else
    "Current option settings\n" ++ String.join (optionTable.map fun (n, _) =>
      n ++ String.ofList (List.replicate (16 - min 16 n.length) ' ') ++
        (if f.on n then "on" else "off") ++ "\n")

/-- `set`: alone it lists the variables. Otherwise its options turn on (`-x`) or off (`+x`)
by letter or with `-o name`; `-o` alone lists the options; `-` ends the options and turns
off `-x` and `-v`, and `--` ends them; what follows replaces the positional parameters, and
`--` alone empties them. -/
def setBuiltin (f : Frame) (args : List String) : Done :=
  match args with
  | [] => ⟨f, listVariables f "" (f.vars.map (·.1)), .ok 0⟩
  | _ => go (args.length + 1) args f ""
where
  /-- Reads the options from `args`, with the output so far. -/
  go : Nat → List String → Frame → String → Done
    | 0, _, g, out => ⟨g, out, .ok 0⟩
    | fuel + 1, args, g, out =>
      match args with
      | [] => ⟨g, out, .ok 0⟩
      | a :: rest =>
        match a.toList with
        | ['-'] =>
          let g := (g.setOption "xtrace" false).setOption "verbose" false
          ⟨if rest.isEmpty then g else g.withParams rest, out, .ok 0⟩
        | ['-', '-'] => ⟨g.withParams rest, out, .ok 0⟩
        | sign :: letters =>
          if (sign = '-' || sign = '+') then
            match lettersOf (sign = '-') (letters.length + 1) letters rest g out with
            | .ok (g, rest, out) => go fuel rest g out
            | .error m => ⟨g, out, .error ("set: " ++ m)⟩
          else ⟨g.withParams args, out, .ok 0⟩
        | [] => ⟨g.withParams args, out, .ok 0⟩
  /-- Applies the letters of one option word; `o` takes the next argument as a name. -/
  lettersOf (on : Bool) : Nat → List Char → List String → Frame → String →
      Except String (Frame × List String × String)
    | 0, _, rest, g, out => .ok (g, rest, out)
    | _ + 1, [], rest, g, out => .ok (g, rest, out)
    | fuel + 1, c :: cs, rest, g, out =>
      if c = 'o' then
        match rest with
        | [] => lettersOf on fuel cs rest g (out ++ optionListing g (!on))
        | name :: more =>
          if (optionTable.lookup name).isSome then lettersOf on fuel cs more (g.setOption name on) out
          else .error ("Illegal option -o " ++ name)
      else
        match optionOfLetter? c with
        | some name => lettersOf on fuel cs rest (g.setOption name on) out
        | none => .error ("Illegal option -" ++ String.singleton c)

/-- `shift`: drops the first `n` positional parameters. -/
def shiftParams (f : Frame) (args : List String) : Done :=
  let n := match args with
    | [] => some 1
    | a :: _ => shellNumber? a
  match n, args with
  | some n, _ =>
    if n > f.params.length then .failed f "shift: can't shift that many"
    else .status (f.withParams (f.params.drop n)) 0
  | none, a :: _ => .failed f ("shift: Illegal number: " ++ a)
  | none, [] => .status f 0

/-! ## `getopts` -/

/-- Whether a letter is an option of a `getopts` string, and whether it takes an argument:
the option letters are those not read as the `:` of the letter before. -/
def optionSpec (c : Char) : List Char → Option Bool
  | [] => none
  | [d] => if d = c then some false else none
  | d :: e :: rest =>
    if d = c then some (e = ':')
    else if e = ':' then optionSpec c rest
    else optionSpec c (e :: rest)

/-- What one call of `getopts` found: the letter for the variable, the new `OPTARG` (`none`
to unset it, `some none` to leave it), the next word, the offset of the next letter in the
word before it, whether the options ended, and the complaint to print. -/
structure OptionStep where
  letter : Char
  arg : Option (Option String)
  next : Nat
  offset : Option Nat
  finished : Bool
  complaint : Option String

/-- One step of `getopts` over `words`, from word `ind` (from 1) and, when it is the word
after a cluster of letters, offset `off` in that cluster. -/
def getoptsStep (optstr : List Char) (words : List String) (ind : Nat) (off : Option Nat) :
    OptionStep :=
  let silent := optstr.head? == some ':'
  let pending : List Char :=
    if ind ≤ 1 then []
    else match off, words[ind - 2]? with
      | some o, some w => if w.length < o then [] else w.toList.drop o
      | _, _ => []
  let current : Option (List Char × Nat) :=
    if !pending.isEmpty then some (pending, ind)
    else match words[ind - 1]? with
      | some w =>
        match w.toList with
        | ['-', '-'] => none
        | '-' :: c :: cs => some (c :: cs, ind + 1)
        | _ => none
      | none => none
  let skipped := match words[ind - 1]? with
    | some "--" => pending.isEmpty
    | _ => false
  match current with
  | none => ⟨'?', some none, if skipped then ind + 1 else ind, none, true, none⟩
  | some ([], next) => ⟨'?', some none, next, none, true, none⟩
  | some (c :: rest, next) =>
    let offsetIn (left : List Char) : Option Nat :=
      (words[next - 2]?).map fun w => w.length - left.length
    match optionSpec c optstr with
    | none =>
      if silent then ⟨'?', some (some (String.singleton c)), next, offsetIn rest, false, none⟩
      else ⟨'?', none, next, offsetIn rest, false,
        some ("Illegal option -" ++ String.singleton c)⟩
    | some false => ⟨c, some (some ""), next, offsetIn rest, false, none⟩
    | some true =>
      if !rest.isEmpty then ⟨c, some (some (String.ofList rest)), next, none, false, none⟩
      else
        match words[next - 1]? with
        | some w => ⟨c, some (some w), next + 1, none, false, none⟩
        | none =>
          if silent then ⟨':', some (some (String.singleton c)), next, none, false, none⟩
          else ⟨'?', none, next, none, false,
            some ("No arg for -" ++ String.singleton c ++ " option")⟩

/-- `getopts optstring name [arg...]`: reads the next option of the arguments (or of the
positional parameters) into `name`, with its argument in `OPTARG` and the index of the next
argument in `OPTIND`; status 1 when the options are done. A letter that is not an option is
`?` with a complaint, or with `OPTARG` the letter when the string starts with `:`. -/
def getoptsBuiltin (f : Frame) (args : List String) : Prog Done := do
  match args with
  | optstr :: var :: given =>
    let words := if given.isEmpty then f.params else given
    let (ind, off) :=
      if f.optIndex > words.length + 1 then (1, none) else (f.optIndex, f.optOffset)
    let step := getoptsStep optstr.toList words ind off
    match step.complaint with
    | some m => f.put 2 (m ++ "\n")
    | none => pure ()
    let reset := { f with optIndex := 1, optOffset := none }
    let g := match step.arg with
      | some (some v) => reset.assign "OPTARG" v
      | some none => .ok reset
      | none => reset.remove "OPTARG"
    let g := g.bind fun g => Frame.assignWith false g "OPTIND" (toString step.next)
    let g := g.bind fun g => g.assign var (String.singleton step.letter)
    match g with
    | .ok g =>
      pure (.status { g with optIndex := step.next, optOffset := step.offset }
        (if step.finished then 1 else 0))
    | .error m => pure (.failed reset ("getopts: " ++ m))
  | _ => pure (.failed f "getopts: Usage: getopts optstring var [arg]")

/-! ## `read` -/

/-- Reads a line for `read`: its bytes, each with whether field splitting may cut there (not
at a byte after a backslash), and whether the input ended before a newline. Without `raw`, a
backslash keeps the byte after it from splitting and a backslash before a newline joins the
next line; NUL bytes are dropped. `bound` limits the bytes. -/
def readInput (fd : Nat) (raw : Bool) : Nat → Bool → Prog (List (Char × Bool) × Bool)
  | 0, _ => pure ([], true)
  | bound + 1, escaped => do
    match ← Prog.ask (.read fd 1) with
    | .ok b =>
      match b.toList with
      | [] => pure ([], true)
      | byte :: _ =>
        let c := Char.ofNat byte.toNat
        if c = '\x00' then readInput fd raw bound escaped
        else if escaped then
          if c = '\n' then readInput fd raw bound false
          else do
            let (rest, ended) ← readInput fd raw bound false
            pure ((c, false) :: rest, ended)
        else if !raw && c = '\\' then readInput fd raw bound true
        else if c = '\n' then pure ([], false)
        else do
          let (rest, ended) ← readInput fd raw bound false
          pure ((c, true) :: rest, ended)
    | .error _ => pure ([], true)

/-- The whitespace separators: those of `IFS` that are blanks. -/
def isIfsBlank (c : Char) : Bool :=
  c = ' ' || c = '\t' || c = '\n'

/-- The value the last variable of `read` takes from what is left of the line: when one
field is left, followed only by separators of which at most one is not a blank, that field;
otherwise all of it but the blank separators at its end. A byte that may not split is not
seen when the blanks at the end are looked for. -/
def lastField (ifs : List Char) (rest : List (Char × Bool)) : String :=
  let sep (p : Char × Bool) := p.2 && ifs.contains p.1
  let first := rest.takeWhile fun p => !sep p
  let after := rest.drop first.length
  if after.all sep && (after.filter fun p => !isIfsBlank p.1).length ≤ 1 then
    String.ofList (first.map (·.1))
  else
    let kept : List (Char × Bool) := match trailing 0 none rest with
      | some k => rest.take k
      | none => rest
    String.ofList (kept.map (·.1))
where
  /-- Where the blank separators at the end start: `start` is where the run of blanks seen
  last began, `i` the position. -/
  trailing (i : Nat) (start : Option Nat) : List (Char × Bool) → Option Nat
    | [] => start
    | (c, splits) :: more =>
      if !splits then trailing (i + 1) start more
      else if ifs.contains c && isIfsBlank c then trailing (i + 1) (start.orElse fun _ => some i) more
      else trailing (i + 1) none more

/-- Skips separators that are blanks. -/
def dropBlankSeps (ifs : List Char) (cs : List (Char × Bool)) : List (Char × Bool) :=
  cs.dropWhile fun p => p.2 && ifs.contains p.1 && isIfsBlank p.1

/-- Splits the line of `read` among `n` variables: each but the last takes a field, and the
last the rest (`lastField`); the variables past the end of the line are empty. -/
def readFields (ifs : List Char) : Nat → List (Char × Bool) → List String
  | 0, _ => []
  | 1, cs => [lastField ifs (dropBlankSeps ifs cs)]
  | n + 2, cs =>
    let cs := dropBlankSeps ifs cs
    if cs.isEmpty then List.replicate (n + 2) ""
    else
      let sep (p : Char × Bool) := p.2 && ifs.contains p.1
      let field := cs.takeWhile fun p => !sep p
      let rest := cs.drop field.length
      -- the separator: blanks, then at most one other separator, then blanks
      let rest := dropBlankSeps ifs rest
      let rest := match rest with
        | p :: more => if sep p && !isIfsBlank p.1 then dropBlankSeps ifs more else rest
        | [] => []
      String.ofList (field.map (·.1)) :: readFields ifs (n + 1) rest

/-- `read [-r] [-p prompt] name...`: reads a line of the standard input into the variables;
status 1 when the input ended before a newline. The prompt is only for a terminal. -/
def readBuiltin (f : Frame) (args : List String) : Prog Done := do
  match takeOptions ['p', 'r'] ['p'] args with
  | .error m => pure (.failed f ("read: " ++ m))
  | .ok (opts, names) =>
    if names.isEmpty then pure (.failed f "read: arg count")
    else
      let raw := opts.any (·.1 = 'r')
      let (line, ended) ← match Io.get? f.io 0 with
        | some real => readInput real raw Prog.readFuel false
        | none => pure ([], true)
      let ifs := ((f.get? "IFS").getD " \t\n").toList
      let values := readFields ifs names.length line
      match f.assignAll (names.zip values) with
      | (g, none) => pure (.status g (if ended then 1 else 0))
      | (g, some m) => pure (.failed g ("read: " ++ m))

/-! ## Aliases -/

/-- The bucket of a name in the shell's table of aliases, which lists them bucket by bucket:
the first byte times sixteen plus the sum of the bytes taken as signed, modulo 39. -/
def aliasBucket (name : String) : Nat :=
  let bytes := name.toList.map Char.toNat
  let signed : List Int := bytes.map fun (b : Nat) => if b ≥ 128 then (b : Int) - 256 else (b : Int)
  let h : Int := ((bytes.headD 0 : Nat) : Int) * 16 + signed.foldl (· + ·) 0
  (h % 4294967296).toNat % 39

/-- The aliases in the order the shell lists them. -/
def Frame.aliasesListed (f : Frame) : List (String × String) :=
  f.aliases.mergeSort fun a b => decide (aliasBucket a.1 ≤ aliasBucket b.1)

/-- An alias as `alias` prints it. -/
def aliasLine (name value : String) : String :=
  name ++ "=" ++ shellQuote value ++ "\n"

/-- Sets an alias: a new one comes last, an old one keeps its place. -/
def Frame.setAlias (f : Frame) (name value : String) : Frame :=
  if f.aliases.any (·.1 = name) then
    { f with aliases := f.aliases.map fun (n, v) => if n = name then (n, value) else (n, v) }
  else { f with aliases := f.aliases ++ [(name, value)] }

/-- `alias`: alone it lists the aliases; `name=value` sets one, and a name alone prints it
(or complains, status 1). -/
def aliasBuiltin (f : Frame) (args : List String) : Prog Done := do
  match args with
  | [] => pure ⟨f, String.join (f.aliasesListed.map fun (n, v) => aliasLine n v), .ok 0⟩
  | _ =>
    let mut g := f
    let mut out := ""
    let mut status := 0
    for a in args do
      -- the name is what comes before the first `=` after the first byte
      match (a.toList.drop 1).findIdx? (· = '=') with
      | some i =>
        g := g.setAlias (String.ofList (a.toList.take (i + 1)))
          (String.ofList (a.toList.drop (i + 2)))
      | none =>
        match g.aliases.lookup a with
        | some v => out := out ++ aliasLine a v
        | none =>
          g.put 2 ("alias: " ++ a ++ " not found\n")
          status := 1
    pure ⟨g, out, .ok status⟩

/-- `unalias`: removes aliases (a name that is none is a complaint, status 1), or with `-a`
all of them. -/
def unaliasBuiltin (f : Frame) (args : List String) : Prog Done := do
  match takeOptions ['a'] [] args with
  | .error m => pure (.failed f ("unalias: " ++ m))
  | .ok (opts, names) =>
    if !opts.isEmpty then pure (.status { f with aliases := [] } 0)
    else
      let mut g := f
      let mut status := 0
      for n in names do
        if g.aliases.any (·.1 = n) then g := { g with aliases := g.aliases.filter (·.1 ≠ n) }
        else
          g.put 2 ("unalias: " ++ n ++ " not found\n")
          status := 1
      pure (.status g status)

end JobControl.Host.Script
