import JobControl.Host.Script.Lex

/-!
# Shell scripts: commands

The grammar of commands over the tokens of `Lex`:

* a complete command is a list of and-or commands separated by `;` or `&` and ended by a
  newline; `&` runs the command before it in the background;
* an and-or command joins pipelines by `&&` and `||`, a pipeline joins commands by `|`, with
  an optional leading `!`;
* a command is a simple command (assignments, words and redirections in any order, the
  assignments first), a function definition `name() command`, or a compound command: `{ }`,
  `( )`, `if`, `while`, `until`, `for` and `case`, each with optional redirections.

Reserved words are recognised only where a command may begin, and only unquoted. A
here-document's body is taken from the lines after the one holding its operator.

`Src.command` reads the next complete command, so that a script is read one command at a time
and a syntax error shows only when the commands before it have run.
-/

namespace JobControl.Host.Script

/-- Reading tokens from a text, failing with a syntax error. -/
abbrev Parser := StateT Src (Except SyntaxError)

namespace Parser

/-- The next token, left in place. -/
def peek : Parser Tok := fun s => do
  let (t, _) ← s.token
  pure (t, s)

/-- The next token, taken. -/
def next : Parser Tok := fun s => s.token

/-- Fails with a complaint at the current line. -/
def fail {α : Type} (msg : String) : Parser α := fun s => .error ⟨s.line, msg⟩

/-- Fails on a token that cannot stand where it is. -/
def unexpected {α : Type} (t : Tok) : Parser α :=
  fail ("Syntax error: " ++ t.describe ++ " unexpected")

/-- Fails on a token that stands where another was expected. -/
def expecting {α : Type} (t : Tok) (what : String) : Parser α :=
  fail ("Syntax error: " ++ t.describe ++ " unexpected (expecting \"" ++ what ++ "\")")

/-- Takes the reserved word `k`, or fails. -/
def expectWord (k : String) : Parser Unit := do
  let t ← next
  if t.isWord k then pure () else expecting t k

/-- Skips newlines; `fuel` bounds how many. -/
def skipNewlinesWith : Nat → Parser Unit
  | 0 => pure ()
  | fuel + 1 => do
    match ← peek with
    | .newline => let _ ← next; skipNewlinesWith fuel
    | _ => pure ()

/-- Skips newlines. -/
def skipNewlines : Parser Unit := fun s =>
  skipNewlinesWith (s.rest.length + 1) s

/-- Whether a token ends a list inside a compound command. -/
def isTerminator (t : Tok) : Bool :=
  match t with
  | .eof => true
  | .op ")" => true
  | .op ";;" => true
  | .word _ _ => ["then", "else", "elif", "fi", "do", "done", "esac", "\x7d"].any t.isWord
  | _ => false

/-- Where the next token starts: how much is left from it. -/
def tokenStart : Parser Nat := fun s =>
  .ok ((skipBlank (s.rest.length + 1) s).rest.length, s)

/-- Replaces the next token by the text of its alias, when it is a plain word that names an
alias whose text is not being read already; the alias stays in use while its text is read.
An alias whose text ends in a blank lets the word after its text be an alias too. Whether the
token was replaced. -/
def expandAlias : Parser Bool := fun s => do
  let start := (skipBlank (s.rest.length + 1) s).rest.length
  let (t, after) ← s.token
  match t with
  | .word [.lit w] raw =>
    match (if raw == w then s.aliases.lookup w else none) with
    | none => .ok (false, s)
    | some v =>
      if s.active.any (fun (n, k) => n == w && start > k) then .ok (false, s)
      else
        let left := after.rest.length
        let trailing := v.toList.getLast?.any fun c => c = ' ' || c = '\t'
        .ok (true, { after with
          rest := v.toList ++ after.rest
          active := (w, left) :: s.active.filter (fun (_, k) => start > k)
          chainAt := if trailing then some left else none })
  | _ => .ok (false, s)

/-- The lines of a here-document up to its delimiter line: the body and what follows the
delimiter line. Without a delimiter line the body runs to the end. -/
def heredocLines (delim : String) (stripTabs : Bool) : Nat → List Char → List String × List Char
  | 0, cs => ([], cs)
  | _ + 1, [] => ([], [])
  | fuel + 1, cs =>
    let (line, after) := cs.span (· ≠ '\n')
    let line := if stripTabs then line.dropWhile (· = '\t') else line
    let rest := after.drop 1
    if String.ofList line == delim then ([], rest)
    else
      let (body, r) := heredocLines delim stripTabs fuel rest
      (String.ofList line :: body, r)

/-- Takes the body of a here-document from the lines after the current one. -/
def heredoc (delim : String) (stripTabs : Bool) : Parser String := fun s =>
  let (lineRest, after) := s.rest.span (· ≠ '\n')
  match after with
  | [] => .ok ("", s)
  | _ :: bodyStart =>
    let (lines, rest) := heredocLines delim stripTabs (bodyStart.length + 1) bodyStart
    let body := String.join (lines.map (· ++ "\n"))
    .ok (body, { s with rest := lineRest ++ '\n' :: rest, line := s.line + lines.length + 1 })

/-- Removes the quotes of a here-document's delimiter word: the characters left and whether
any was quoted. A backslash before a newline joins the lines and quotes nothing; inside
single quotes every character stands for itself; inside double quotes a backslash quotes
only `$`, a backquote, `"`, a backslash and a newline. -/
def unquoteDelimiter : List Char → Option Char → List Char × Bool
  | [], _ => ([], false)
  | '\\' :: '\n' :: rest, q => unquoteDelimiter rest q
  | c :: rest, none =>
    if c = '\\' then
      match rest with
      | d :: more => let (r, _) := unquoteDelimiter more none; (d :: r, true)
      | [] => (['\\'], false)
    else if c = '\'' || c = '"' then
      let (r, _) := unquoteDelimiter rest (some c); (r, true)
    else let (r, q) := unquoteDelimiter rest none; (c :: r, q)
  | c :: rest, some q =>
    if c = q then let (r, _) := unquoteDelimiter rest none; (r, true)
    else if q = '"' && c = '\\' then
      match rest with
      | d :: more =>
        let (r, _) := unquoteDelimiter more (some q)
        if d = '$' || d = '`' || d = '"' || d = '\\' then (d :: r, true) else (c :: d :: r, true)
      | [] => (['\\'], true)
    else let (r, _) := unquoteDelimiter rest (some q); (c :: r, true)

/-- The delimiter of a here-document without its quotes, and whether it had any. -/
def delimiterOf (raw : String) : String × Bool :=
  let (cs, quoted) := unquoteDelimiter raw.toList none
  (String.ofList cs, quoted)

/-- Reads the target of a redirection operator. -/
def redirect (fd : Option Nat) (op : String) : Parser Redir := do
  let t ← next
  match t with
  | .word w raw =>
    match op with
    | "<" => pure (.read (fd.getD 0) w)
    | ">>" => pure (.write (fd.getD 1) w true)
    | ">|" => pure (.clobber (fd.getD 1) w)
    | "<>" => pure (.readWrite (fd.getD 0) w)
    | "<&" => pure (.dupInput (fd.getD 0) w)
    | ">&" => pure (.dupOutput (fd.getD 1) w)
    | "<<" | "<<-" =>
      let (delim, quoted) := delimiterOf raw
      let body ← heredoc delim (op == "<<-")
      pure (.here (fd.getD 0) (if quoted then [.quoted body] else heredocWord body))
    | _ => pure (.write (fd.getD 1) w false)
  | t => unexpected t

/-- Reads the redirections that follow a compound command; `fuel` bounds how many. -/
def redirects : Nat → Parser (List Redir)
  | 0 => pure []
  | fuel + 1 => do
    match ← peek with
    | .redir fd op =>
      let _ ← next
      let r ← redirect fd op
      let rs ← redirects fuel
      pure (r :: rs)
    | _ => pure []

/-- The name and value of an assignment word `name=value`, if it is one. -/
def assignment (w : Word) (raw : String) : Option (String × Word) :=
  let name := raw.toList.takeWhile isNameChar
  let after := (raw.toList.drop name.length).head?
  if name.isEmpty || !isNameStart (name.headD ' ') || after != some '=' then
    none
  else
    match w with
    | .lit s :: rest =>
      let value := (s.toList.drop (name.length + 1))
      if s.toList.take (name.length + 1) != name ++ ['='] then none
      else some (String.ofList name, if value.isEmpty then rest else .lit (String.ofList value) :: rest)
    | _ => none

mutual

/-- A list of and-or commands up to a terminator, inside a compound command. -/
def compoundList : Nat → Bool → Parser Cmd
  | 0, _ => fail "Syntax error: nesting too deep"
  | fuel + 1, allowEmpty => do
    skipNewlines
    let t ← peek
    if isTerminator t then
      if allowEmpty then pure .empty else unexpected t
    else
      let c ← andOr fuel
      listTail fuel c

/-- The separators and further commands after an and-or command in a compound list. -/
def listTail : Nat → Cmd → Parser Cmd
  | 0, c => pure c
  | fuel + 1, c => do
    let t ← peek
    let (isSep, c) := match t with
      | .op ";" => (true, c)
      | .newline => (true, c)
      | .op "&" => (true, Cmd.background c)
      | _ => (false, c)
    if !isSep then pure c
    else
      let _ ← next
      skipNewlines
      let t ← peek
      if isTerminator t then pure c
      else
        let d ← andOr fuel
        listTail fuel (.seq c d)

/-- Pipelines joined by `&&` and `||`. -/
def andOr : Nat → Parser Cmd
  | 0 => fail "Syntax error: nesting too deep"
  | fuel + 1 => do
    let p ← pipeline fuel
    andOrTail fuel p

/-- Further pipelines after `&&` or `||`. -/
def andOrTail : Nat → Cmd → Parser Cmd
  | 0, c => pure c
  | fuel + 1, c => do
    match ← peek with
    | .op "&&" =>
      let _ ← next
      skipNewlines
      let p ← pipeline fuel
      andOrTail fuel (.andThen c p)
    | .op "||" =>
      let _ ← next
      skipNewlines
      let p ← pipeline fuel
      andOrTail fuel (.orElse c p)
    | _ => pure c

/-- Commands joined by `|`, with an optional leading `!`. -/
def pipeline : Nat → Parser Cmd
  | 0 => fail "Syntax error: nesting too deep"
  | fuel + 1 => do
    let bang ← do
      if (← peek).isWord "!" then
        let _ ← next
        pure true
      else pure false
    let c ← command fuel
    let rest ← pipeTail fuel
    if rest.isEmpty && !bang then pure c else pure (.pipeline bang (c :: rest))

/-- The commands after each `|`. -/
def pipeTail : Nat → Parser (List Cmd)
  | 0 => pure []
  | fuel + 1 => do
    match ← peek with
    | .op "|" =>
      let _ ← next
      skipNewlines
      let c ← command fuel
      let rest ← pipeTail fuel
      pure (c :: rest)
    | _ => pure []

/-- A simple, compound or function command. -/
def command : Nat → Parser Cmd
  | 0 => fail "Syntax error: nesting too deep"
  | fuel + 1 => do
    let t ← peek
    if t.isWord "\x7b" then
      let _ ← next
      let body ← compoundList fuel false
      expectWord "\x7d"
      let rs ← redirects fuel
      pure (.group body rs)
    else if t.isWord "if" then
      let _ ← next
      ifRest fuel
    else if t.isWord "while" || t.isWord "until" then
      let _ ← next
      let cond ← compoundList fuel false
      expectWord "do"
      let body ← compoundList fuel false
      expectWord "done"
      let rs ← redirects fuel
      pure (.loop (t.isWord "until") cond body rs)
    else if t.isWord "for" then
      let _ ← next
      forRest fuel
    else if t.isWord "case" then
      let _ ← next
      caseRest fuel
    else if ["then", "else", "elif", "fi", "do", "done", "esac", "\x7d", "in"].any t.isWord then
      unexpected t
    else
      match t with
      | .op "(" =>
        let _ ← next
        let body ← compoundList fuel false
        let close ← next
        match close with
        | .op ")" =>
          let rs ← redirects fuel
          pure (.subshell body rs)
        | t => expecting t ")"
      | _ =>
        if ← expandAlias then command fuel
        else simple fuel (← get).line [] [] []

/-- The condition, body and other branches of an `if` after the word `if` (or `elif`). -/
def ifRest : Nat → Parser Cmd
  | 0 => fail "Syntax error: nesting too deep"
  | fuel + 1 => do
    let cond ← compoundList fuel false
    expectWord "then"
    let body ← compoundList fuel false
    let t ← next
    if t.isWord "fi" then
      let rs ← redirects fuel
      pure (.ifThen cond body none rs)
    else if t.isWord "else" then
      let e ← compoundList fuel false
      expectWord "fi"
      let rs ← redirects fuel
      pure (.ifThen cond body (some e) rs)
    else if t.isWord "elif" then
      let e ← ifRest fuel
      match e with
      | .ifThen c b o rs => pure (.ifThen cond body (some (.ifThen c b o [])) rs)
      | other => pure (.ifThen cond body (some other) [])
    else expecting t "fi"

/-- The variable, words and body of a `for` after the word `for`. -/
def forRest : Nat → Parser Cmd
  | 0 => fail "Syntax error: nesting too deep"
  | fuel + 1 => do
    let t ← next
    match t with
    | .word _ raw =>
      if !isName raw then fail "Syntax error: Bad for loop variable"
      else
        skipNewlines
        let t ← peek
        let items ← if t.isWord "in" then do
            let _ ← next
            let ws ← forWords fuel
            pure (some ws)
          else
            match t with
            | .op ";" => do let _ ← next; pure none
            | _ => pure none
        skipNewlines
        expectWord "do"
        let body ← compoundList fuel false
        expectWord "done"
        let rs ← redirects fuel
        pure (.forEach raw items body rs)
    | _ => fail "Syntax error: Bad for loop variable"

/-- The words of a `for` up to `;` or a newline, which is taken. -/
def forWords : Nat → Parser (List Word)
  | 0 => pure []
  | fuel + 1 => do
    match ← next with
    | .word w _ =>
      let ws ← forWords fuel
      pure (w :: ws)
    | .op ";" => pure []
    | .newline => pure []
    | t => unexpected t

/-- The subject and arms of a `case` after the word `case`. -/
def caseRest : Nat → Parser Cmd
  | 0 => fail "Syntax error: nesting too deep"
  | fuel + 1 => do
    match ← next with
    | .word subject _ =>
      skipNewlines
      expectWord "in"
      let arms ← caseArms fuel
      let rs ← redirects fuel
      pure (.caseOf subject arms rs)
    | t => unexpected t

/-- The arms of a `case` up to `esac`, which is taken. -/
def caseArms : Nat → Parser (List (List Word × Cmd))
  | 0 => fail "Syntax error: nesting too deep"
  | fuel + 1 => do
    skipNewlines
    let t ← peek
    if t.isWord "esac" then
      let _ ← next
      pure []
    else
      match t with
      | .op "(" => let _ ← next
      | _ => pure ()
      let pats ← casePatterns fuel
      let body ← compoundList fuel true
      match ← next with
      | .op ";;" =>
        let arms ← caseArms fuel
        pure ((pats, body) :: arms)
      | t =>
        if t.isWord "esac" then pure [(pats, body)] else expecting t ";;"

/-- The patterns of a `case` arm, separated by `|`, up to `)`, which is taken. -/
def casePatterns : Nat → Parser (List Word)
  | 0 => fail "Syntax error: nesting too deep"
  | fuel + 1 => do
    match ← next with
    | .word w _ =>
      match ← next with
      | .op "|" =>
        let ps ← casePatterns fuel
        pure (w :: ps)
      | .op ")" => pure [w]
      | t => expecting t ")"
    | t => unexpected t

/-- The assignments, words and redirections of a simple command that starts on `line`, or a
function definition. -/
def simple : Nat → Nat → List (String × Word) → List Word → List Redir → Parser Cmd
  | 0, _, _, _, _ => fail "Syntax error: nesting too deep"
  | fuel + 1, line, assigns, words, redirs => do
    let t ← peek
    match t with
    | .redir fd op =>
      let _ ← next
      let r ← redirect fd op
      simple fuel line assigns words (redirs ++ [r])
    | .word w raw =>
      let start ← tokenStart
      let chained := (← get).chainAt.any (start ≤ ·)
      let expanded ← if words.isEmpty || chained then expandAlias else pure false
      if expanded then simple fuel line assigns words redirs
      else
        let _ ← next
        if chained then modify fun s => { s with chainAt := none }
        match (if words.isEmpty then assignment w raw else none) with
        | some a => simple fuel line (assigns ++ [a]) words redirs
        | none =>
          if words.isEmpty && assigns.isEmpty && redirs.isEmpty then
            match ← peek with
            | .op "(" =>
              let _ ← next
              match ← next with
              | .op ")" =>
                if !isName raw || specialBuiltins.contains raw then
                  fail "Syntax error: Bad function name"
                else
                  skipNewlines
                  let body ← command fuel
                  pure (.function raw body)
              | t => expecting t ")"
            | _ => simple fuel line assigns [w] redirs
          else simple fuel line assigns (words ++ [w]) redirs
    | t =>
      if assigns.isEmpty && words.isEmpty && redirs.isEmpty then unexpected t
      else pure (.simple line assigns words redirs)

end

/-- The and-or commands of a complete command after the first, up to its newline. -/
def completeTail : Nat → Cmd → Parser Cmd
  | 0, c => pure c
  | fuel + 1, c => do
    match ← peek with
    | .newline => let _ ← next; pure c
    | .eof => pure c
    | .op ";" =>
      let _ ← next
      match ← peek with
      | .newline => let _ ← next; pure c
      | .eof => pure c
      | _ =>
        let d ← andOr fuel
        completeTail fuel (.seq c d)
    | .op "&" =>
      let _ ← next
      let c := Cmd.background c
      match ← peek with
      | .newline => let _ ← next; pure c
      | .eof => pure c
      | _ =>
        let d ← andOr fuel
        completeTail fuel (.seq c d)
    | t => unexpected t

end Parser

/-- Reads the next complete command: the command, the line it starts on and the text after
it; `none` at the end of the text. -/
def Src.command (s : Src) : Except SyntaxError (Option (Cmd × Nat × Src)) :=
  let fuel := 8 * (s.rest.length + 2)
  let run : Parser (Option (Cmd × Nat)) := do
    Parser.skipNewlines
    match ← Parser.peek with
    | .eof => pure none
    | _ =>
      let line := (← get).line
      let c ← Parser.andOr fuel
      let c ← Parser.completeTail fuel c
      pure (some (c, line))
  match run s with
  | .ok (some (c, line), s') => .ok (some (c, line, s'))
  | .ok (none, _) => .ok none
  | .error e => .error e

/-- Reads a whole text into commands, failing at the first syntax error; `fuel` bounds the
commands. -/
def Src.commandsWith : Nat → Src → Except SyntaxError (List Cmd)
  | 0, _ => .ok []
  | fuel + 1, s =>
    match s.command with
    | .ok none => .ok []
    | .ok (some (c, _, s')) => (c :: ·) <$> Src.commandsWith fuel s'
    | .error e => .error e

/-- Reads a whole text into commands, failing at the first syntax error. -/
def parseCommands (text : String) : Except SyntaxError (List Cmd) :=
  Src.commandsWith (text.length + 1) (Src.ofText text [])

end JobControl.Host.Script
