import JobControl.Host.Script.Syntax

/-!
# Shell scripts: tokens

The tokens of the command language: words, operators (`;`, `&`, `|`, `&&`, `||`, `;;`, `(`,
`)`), redirection operators with an optional descriptor number (`2>`, `<<-`, ...), newlines
and the end of the text. Blanks separate tokens, and `#` at the start of a token begins a
comment that runs to the end of the line; a backslash before a newline joins two lines.

A word is read into its parts: unquoted text; text in single quotes, in double quotes or after
a backslash, which is quoted; and the expansions `$name`, `${...}`, `$(...)`, `` `...` ``,
`$((...))` and a leading `~`. Inside double quotes a backslash quotes only `$`, a backquote,
`"`, a backslash and a newline, and expansions are marked quoted.

* `Src` is the text still to read and its line number;
* `Src.token` reads one token; `Word.ofSource` reads the text of a `${name-word}` word again;
* `heredocWord` reads the body of a here-document whose delimiter was not quoted.
-/

namespace JobControl.Host.Script

/-- Text still to be read, and the number of its first line; with the aliases the reader
replaces, and for each alias whose text is being read, how much is left after that text. -/
structure Src where
  rest : List Char
  line : Nat
  aliases : List (String × String)
  active : List (String × Nat)
  /-- After an alias whose text ends in a blank: how much is left after that text, where the
  next word may be an alias too. -/
  chainAt : Option Nat

/-- A text to read from its first line, with the aliases to replace. -/
def Src.ofText (text : String) (aliases : List (String × String)) : Src :=
  ⟨text.toList, 1, aliases, [], none⟩

/-- Why a script cannot be read: the line and the text of the complaint. -/
structure SyntaxError where
  line : Nat
  message : String
  deriving DecidableEq, Repr

/-- A token. `raw` is the source text of a word. -/
inductive Tok
  | word (w : Word) (raw : String)
  | op (s : String)
  | redir (fd : Option Nat) (op : String)
  | newline
  | eof
  deriving Repr

/-- Whether a token is the unquoted word `k`. -/
def Tok.isWord (t : Tok) (k : String) : Bool :=
  match t with
  | .word [.lit s] raw => s == k && raw == k
  | _ => false

/-- The reserved words. -/
def reservedWords : List String :=
  ["if", "then", "else", "elif", "fi", "do", "done", "case", "esac", "while", "until", "for",
    "in", "\x7b", "\x7d", "!"]

/-- How a token is named in a complaint about it: a reserved word by itself, any other word as
`word`. -/
def Tok.describe : Tok → String
  | .word w raw =>
    if reservedWords.any (Tok.word w raw).isWord then "\"" ++ raw ++ "\"" else "word"
  | .op s => "\"" ++ s ++ "\""
  | .redir _ _ => "redirection"
  | .newline => "newline"
  | .eof => "end of file"

/-- Characters that end an unquoted word. -/
def isDelimiter (c : Char) : Bool :=
  c = ' ' || c = '\t' || c = '\n' || c = ';' || c = '&' || c = '|' || c = '(' || c = ')' ||
    c = '<' || c = '>'

/-- Whether a character may start a variable name. -/
def isNameStart (c : Char) : Bool :=
  c.isAlpha || c = '_'

/-- Whether a character may continue a variable name. -/
def isNameChar (c : Char) : Bool :=
  c.isAlphanum || c = '_'

/-- Whether a text is a variable name. -/
def isName (s : String) : Bool :=
  match s.toList with
  | c :: cs => isNameStart c && cs.all isNameChar
  | [] => false

/-- The number of newlines in a text. -/
def newlines (cs : List Char) : Nat :=
  cs.count '\n'

/-- Adds a part to a word kept in reverse, joining it to a neighbour of the same kind. -/
def pushPart : List Part → Part → List Part
  | .lit a :: ps, .lit b => .lit (a ++ b) :: ps
  | .quoted a :: ps, .quoted b => .quoted (a ++ b) :: ps
  | ps, p => p :: ps

/-- Skips a single-quoted text after its opening quote: the text and what follows it. -/
def singleQuoted (cs : List Char) : Option (List Char × List Char) :=
  match cs.span (· ≠ '\'') with
  | (body, '\'' :: rest) => some (body, rest)
  | _ => none

/-- Skips to the end of a double-quoted text after its opening quote, keeping its source: the
text and what follows the closing quote. -/
def skipDouble : List Char → Option (List Char × List Char)
  | [] => none
  | '"' :: rest => some ([], rest)
  | '\\' :: c :: rest => (skipDouble rest).map fun (b, r) => ('\\' :: c :: b, r)
  | c :: rest => (skipDouble rest).map fun (b, r) => (c :: b, r)

/-- Scans to the bracket that closes one already open (`depth` of them), keeping quotes and
backslashes whole: the text before the closing bracket and what follows it. -/
def scanClose (openC closeC : Char) : Nat → Nat → List Char → Option (List Char × List Char)
  | 0, _, _ => none
  | _ + 1, _, [] => none
  | fuel + 1, depth, c :: rest =>
    let more (taken : List Char) (r : List Char) (d : Nat) :=
      (scanClose openC closeC fuel d r).map fun (b, r') => (taken ++ b, r')
    if c = closeC then
      if depth ≤ 1 then some ([], rest) else more [c] rest (depth - 1)
    else if c = openC then more [c] rest (depth + 1)
    else if c = '\\' then
      match rest with
      | d :: r => more [c, d] r depth
      | [] => more [c] [] depth
    else if c = '\'' then
      match singleQuoted rest with
      | some (b, r) => more ('\'' :: b ++ ['\'']) r depth
      | none => none
    else if c = '"' then
      match skipDouble rest with
      | some (b, r) => more ('"' :: b ++ ['"']) r depth
      | none => none
    else if c = '`' then
      match rest.span (· ≠ '`') with
      | (b, '`' :: r) => more ('`' :: b ++ ['`']) r depth
      | _ => none
    else more [c] rest depth

/-- Scans the inside of an arithmetic expansion after its opening \"$((\" up to the \"))\" that
closes it: a \")\" that closes no \"(\" of the inside ends it when another follows, and is part
of it otherwise. Quotes and backslashes are skipped as in `scanClose`. -/
def arithClose : Nat → Nat → List Char → Option (List Char × List Char)
  | 0, _, _ => none
  | _ + 1, _, [] => none
  | fuel + 1, depth, c :: rest =>
    let more (taken : List Char) (r : List Char) (d : Nat) :=
      (arithClose fuel d r).map fun (b, r') => (taken ++ b, r')
    if c = ')' then
      if depth = 0 then
        match rest with
        | ')' :: r => some ([], r)
        | _ => more [c] rest 0
      else more [c] rest (depth - 1)
    else if c = '(' then more [c] rest (depth + 1)
    else if c = '\\' then
      match rest with
      | d :: r => more [c, d] r depth
      | [] => more [c] [] depth
    else if c = '\'' then
      match singleQuoted rest with
      | some (b, r) => more ('\'' :: b ++ ['\'']) r depth
      | none => none
    else if c = '"' then
      match skipDouble rest with
      | some (b, r) => more ('"' :: b ++ ['"']) r depth
      | none => none
    else if c = '`' then
      match rest.span (· ≠ '`') with
      | (b, '`' :: r) => more ('`' :: b ++ ['`']) r depth
      | _ => none
    else more [c] rest depth

/-- The source of a backquoted command after its opening backquote, with the backslashes before
`$`, a backquote and a backslash (and `"` inside double quotes) removed, and what follows. -/
def backquoted (inDouble : Bool) : List Char → Option (List Char × List Char)
  | [] => none
  | '`' :: rest => some ([], rest)
  | '\\' :: c :: rest =>
    let keep := if c = '$' || c = '`' || c = '\\' || (inDouble && c = '"') then [c] else ['\\', c]
    (backquoted inDouble rest).map fun (b, r) => (keep ++ b, r)
  | c :: rest => (backquoted inDouble rest).map fun (b, r) => (c :: b, r)

/-- Whether a text left inside a quote at its end: `state` is the quote open, if any. -/
def openQuoteAtEnd : Nat → Option Char → List Char → Bool
  | 0, state, _ => state.isSome
  | _ + 1, state, [] => state.isSome
  | fuel + 1, state, c :: rest =>
    match state with
    | none =>
      if c = '\\' then openQuoteAtEnd fuel none (rest.drop 1)
      else if c = '\x27' || c = '"' then openQuoteAtEnd fuel (some c) rest
      else openQuoteAtEnd fuel none rest
    | some q =>
      if q = '"' && c = '\\' then openQuoteAtEnd fuel state (rest.drop 1)
      else if c = q then openQuoteAtEnd fuel none rest
      else openQuoteAtEnd fuel state rest

/-- The special parameters written with one character. -/
def isSpecialParam (c : Char) : Bool :=
  c = '@' || c = '*' || c = '#' || c = '?' || c = '-' || c = '$' || c = '!' || c.isDigit

/-- Reads the operator and word of a `${name...}` form from its inside after the name. -/
def paramOp (inside : List Char) : Option ParamOp :=
  let word (cs : List Char) := String.ofList cs
  match inside with
  | [] => some .plain
  | ':' :: '-' :: w => some (.useDefault true (word w))
  | ':' :: '=' :: w => some (.assignDefault true (word w))
  | ':' :: '?' :: w => some (.errorIfUnset true (word w))
  | ':' :: '+' :: w => some (.alternative true (word w))
  | '-' :: w => some (.useDefault false (word w))
  | '=' :: w => some (.assignDefault false (word w))
  | '?' :: w => some (.errorIfUnset false (word w))
  | '+' :: w => some (.alternative false (word w))
  | '#' :: '#' :: w => some (.dropPrefix true (word w))
  | '#' :: w => some (.dropPrefix false (word w))
  | '%' :: '%' :: w => some (.dropSuffix true (word w))
  | '%' :: w => some (.dropSuffix false (word w))
  | _ => none

/-- Reads the inside of `${...}` into a parameter part. -/
def braceParam (inside : List Char) (quoted : Bool) : Option Part :=
  match inside with
  | ['#'] => some (.param "#" .plain quoted)
  | '#' :: rest =>
    if rest.all isNameChar && !rest.isEmpty then some (.param (String.ofList rest) .length quoted)
    else if rest.length = 1 && rest.all isSpecialParam then
      some (.param (String.ofList rest) .length quoted)
    else (paramOp rest).map fun op => .param "#" op quoted
  | c :: rest =>
    if isNameStart c then
      let name := c :: rest.takeWhile isNameChar
      (paramOp (rest.dropWhile isNameChar)).map fun op => .param (String.ofList name) op quoted
    else if c.isDigit then
      let name := c :: rest.takeWhile Char.isDigit
      (paramOp (rest.dropWhile Char.isDigit)).map fun op => .param (String.ofList name) op quoted
    else if isSpecialParam c then (paramOp rest).map fun op => .param (String.singleton c) op quoted
    else none
  | [] => none

/-- Reads an expansion after a `$`: the part, the characters it used, and what follows. `none`
when the `$` stands for itself. -/
def dollar (quoted : Bool) (line : Nat) (cs : List Char) :
    Except SyntaxError (Option (Part × List Char × List Char)) :=
  let atEnd := line + newlines cs
  match cs with
  | '(' :: '(' :: rest =>
    match arithClose (rest.length + 1) 0 rest with
    | some (body, after) =>
      .ok (some (.arith (String.ofList body) quoted, '(' :: '(' :: body ++ [')', ')'], after))
    | none => .error ⟨atEnd, "Syntax error: Missing '))'"⟩
  | '(' :: rest =>
    match scanClose '(' ')' (rest.length + 1) 1 rest with
    | some (body, after) => .ok (some (.command (String.ofList body) quoted, body, after))
    | none => .error ⟨atEnd, "Syntax error: end of file unexpected (expecting \")\")"⟩
  | '\x7b' :: rest =>
    match scanClose '\x7b' '\x7d' (rest.length + 1) 1 rest with
    | some (inside, after) =>
      match braceParam inside quoted with
      | some p => .ok (some (p, inside, after))
      | none => .ok (some (.param "" .invalid quoted, inside, after))
    | none =>
      -- the text ends inside the braces; a character after the name that starts no operator
      -- is dropped
      let name := match rest with
        | c :: more =>
          if isNameStart c || c.isDigit then c :: more.takeWhile isNameChar
          else if isSpecialParam c then [c]
          else []
        | [] => []
      let afterName := rest.drop name.length
      let tail := match afterName with
        | c :: more => if "\x7d-+?=:#%".toList.contains c then afterName else more
        | [] => []
      let endLine := line + newlines (rest.take name.length) + newlines tail
      if quoted || openQuoteAtEnd (tail.length + 1) none tail then
        .error ⟨endLine, "Syntax error: Unterminated quoted string"⟩
      else .error ⟨endLine, "Syntax error: Missing '\x7d'"⟩
  | c :: rest =>
    if isNameStart c then
      let name := c :: rest.takeWhile isNameChar
      .ok (some (.param (String.ofList name) .plain quoted, name, rest.dropWhile isNameChar))
    else if isSpecialParam c then
      .ok (some (.param (String.singleton c) .plain quoted, [c], rest))
    else .ok none
  | [] => .ok none

/-- Reads the inside of double quotes up to the closing quote: the parts (in reverse order,
added to `acc`), the source used, the newlines passed and what follows. -/
def doubleQuoted (line : Nat) : Nat → List Part → List Char → Except SyntaxError
    (List Part × List Char × List Char)
  | 0, _, _ => .error ⟨line, "Syntax error: Unterminated quoted string"⟩
  | _ + 1, _, [] => .error ⟨line, "Syntax error: Unterminated quoted string"⟩
  | fuel + 1, acc, c :: rest =>
    let go (acc : List Part) (used : List Char) (r : List Char) :=
      (doubleQuoted (line + newlines used) fuel acc r).map fun (ps, u, r') => (ps, used ++ u, r')
    if c = '"' then .ok (acc, ['"'], rest)
    else if c = '\\' then
      match rest with
      | '\n' :: r => go acc ['\\', '\n'] r
      | d :: r =>
        if d = '$' || d = '`' || d = '"' || d = '\\' then go (pushPart acc (.quoted (String.singleton d))) ['\\', d] r
        else go (pushPart acc (.quoted "\\")) ['\\'] (d :: r)
      | [] => .error ⟨line, "Syntax error: Unterminated quoted string"⟩
    else if c = '$' then
      match dollar true line rest with
      | .error e => .error e
      | .ok (some (p, used, r)) => go (pushPart acc p) ('$' :: used) r
      | .ok none => go (pushPart acc (.quoted "$")) ['$'] rest
    else if c = '`' then
      match backquoted true rest with
      | some (body, r) => go (pushPart acc (.command (String.ofList body) true)) ('`' :: body ++ ['`']) r
      | none => .error ⟨line + newlines rest, "Syntax error: EOF in backquote substitution"⟩
    else go (pushPart acc (.quoted (String.singleton c))) [c] rest

/-- Reads a tilde prefix at the start of a word: the user name and what follows. -/
def tildePrefix (cs : List Char) : Option (String × List Char) :=
  match cs with
  | '~' :: rest =>
    let user := rest.takeWhile fun c => c ≠ '/' && !isDelimiter c
    if user.all fun c => isNameChar c || c = '.' || c = '-' then
      some (String.ofList user, rest.drop user.length)
    else none
  | _ => none

/-- Reads the rest of a word: its parts (in reverse order, added to `acc`), its source text
and what follows. With `bounded`, blanks and operator characters end the word; without, they
are part of it. -/
def wordRest (line : Nat) (bounded : Bool) : Nat → List Part → List Char → Except SyntaxError
    (List Part × List Char × List Char)
  | 0, acc, cs => .ok (acc, [], cs)
  | _ + 1, acc, [] => .ok (acc, [], [])
  | fuel + 1, acc, c :: rest =>
    let go (acc : List Part) (used : List Char) (r : List Char) :=
      (wordRest (line + newlines used) bounded fuel acc r).map fun (ps, u, r') => (ps, used ++ u, r')
    if bounded && isDelimiter c then .ok (acc, [], c :: rest)
    else if c = '\\' then
      match rest with
      | '\n' :: r => go acc ['\\', '\n'] r
      | d :: r => go (pushPart acc (.quoted (String.singleton d))) ['\\', d] r
      | [] => go acc ['\\'] []
    else if c = '\'' then
      match singleQuoted rest with
      | some (body, r) =>
        let acc := if body.isEmpty then pushPart acc (.quoted "") else pushPart acc (.quoted (String.ofList body))
        go acc ('\'' :: body ++ ['\'']) r
      | none => .error ⟨line + newlines rest, "Syntax error: Unterminated quoted string"⟩
    else if c = '"' then
      match doubleQuoted line (rest.length + 1) (pushPart acc (.quoted "")) rest with
      | .ok (acc, used, r) => go acc ('"' :: used) r
      | .error e => .error e
    else if c = '$' then
      match dollar false line rest with
      | .error e => .error e
      | .ok (some (p, used, r)) => go (pushPart acc p) ('$' :: used) r
      | .ok none => go (pushPart acc (.lit "$")) ['$'] rest
    else if c = '`' then
      match backquoted false rest with
      | some (body, r) => go (pushPart acc (.command (String.ofList body) false)) ('`' :: body ++ ['`']) r
      | none => .error ⟨line + newlines rest, "Syntax error: EOF in backquote substitution"⟩
    else go (pushPart acc (.lit (String.singleton c))) [c] rest

/-- Drops empty quoted pieces that stand next to other pieces: `""` alone keeps the word. -/
def tidy (w : Word) : Word :=
  match w.filter (fun p => match p with | .quoted "" => false | _ => true) with
  | [] => if w.isEmpty then [] else [.quoted ""]
  | ps => ps

/-- Reads a word: its parts, its source text and what follows. -/
def readWord (line : Nat) (cs : List Char) : Except SyntaxError (Word × String × List Char) :=
  let (start, used0, cs) := match tildePrefix cs with
    | some (user, r) => ([Part.tilde user], '~' :: user.toList, r)
    | none => ([], [], cs)
  match wordRest line true (cs.length + 1) start cs with
  | .ok (acc, used, r) => .ok (tidy acc.reverse, String.ofList (used0 ++ used), r)
  | .error e => .error e

/-- The operators, longest first. -/
def operatorTexts : List String :=
  ["&&", "||", ";;", "&", "|", ";", "(", ")"]

/-- The redirection operators, longest first. -/
def redirTexts : List String :=
  ["<<-", "<<", "<&", "<>", "<", ">>", ">&", ">|", ">"]

/-- The operator or redirection at the front of a text, if any. -/
def operatorAt (cs : List Char) : Option (String × Bool) :=
  match redirTexts.find? (fun o => cs.take o.length == o.toList) with
  | some o => some (o, true)
  | none => (operatorTexts.find? (fun o => cs.take o.length == o.toList)).map (·, false)

/-- Skips blanks, joined lines and a comment before a token. -/
def skipBlank : Nat → Src → Src
  | 0, s => s
  | fuel + 1, s =>
    match s.rest with
    | ' ' :: r => skipBlank fuel { s with rest := r }
    | '\t' :: r => skipBlank fuel { s with rest := r }
    | '\\' :: '\n' :: r => skipBlank fuel { s with rest := r, line := s.line + 1 }
    | '#' :: r => { s with rest := r.dropWhile (· ≠ '\n') }
    | _ => s

/-- Reads one token. -/
def Src.token (s : Src) : Except SyntaxError (Tok × Src) :=
  let s := skipBlank (s.rest.length + 1) s
  match s.rest with
  | [] => .ok (.eof, s)
  | '\n' :: r => .ok (.newline, { s with rest := r, line := s.line + 1 })
  | cs =>
    let digits := cs.takeWhile Char.isDigit
    let afterDigits := cs.drop digits.length
    match operatorAt afterDigits with
    | some (o, true) =>
      if digits.isEmpty then .ok (.redir none o, { s with rest := afterDigits.drop o.length })
      else .ok (.redir (String.ofList digits).toNat? o, { s with rest := afterDigits.drop o.length })
    | _ =>
      match operatorAt cs with
      | some (o, _) => .ok (.op o, { s with rest := cs.drop o.length })
      | none =>
        match readWord s.line cs with
        | .ok (w, raw, r) => .ok (.word w raw, { s with rest := r, line := s.line + newlines raw.toList })
        | .error e => .error e

/-- Reads the parts of a text in which expansions are marked quoted and everything else is
quoted text; a backslash quotes only `$`, a backquote, a backslash and a newline. -/
def heredocParts (line : Nat) : Nat → List Part → List Char → List Part
  | 0, acc, _ => acc
  | _ + 1, acc, [] => acc
  | fuel + 1, acc, c :: rest =>
    if c = '\\' then
      match rest with
      | '\n' :: r => heredocParts line fuel acc r
      | d :: r =>
        if d = '$' || d = '`' || d = '\\' then
          heredocParts line fuel (pushPart acc (.quoted (String.singleton d))) r
        else heredocParts line fuel (pushPart acc (.quoted "\\")) (d :: r)
      | [] => pushPart acc (.quoted "\\")
    else if c = '$' then
      match dollar true line rest with
      | .ok (some (p, _, r)) => heredocParts line fuel (pushPart acc p) r
      | _ => heredocParts line fuel (pushPart acc (.quoted "$")) rest
    else if c = '`' then
      match backquoted false rest with
      | some (body, r) => heredocParts line fuel (pushPart acc (.command (String.ofList body) true)) r
      | none => heredocParts line fuel (pushPart acc (.quoted "`")) rest
    else heredocParts line fuel (pushPart acc (.quoted (String.singleton c))) rest

/-- The word of a here-document body whose delimiter was not quoted. -/
def heredocWord (body : String) : Word :=
  (heredocParts 0 (body.length + 1) [.quoted ""] body.toList).reverse

/-- Reads the text of a word again, as the word of a `${name-word}` form: inside double quotes
when the form was. Text that does not read as a word stands for itself. -/
def Word.ofSource (src : String) (quoted : Bool) : Word :=
  if quoted then
    match doubleQuoted 0 (src.length + 2) [.quoted ""] (src.toList ++ ['"']) with
    | .ok (acc, _, _) => tidy acc.reverse
    | .error _ => [.quoted src]
  else
    match wordRest 0 false (src.length + 1) [] src.toList with
    | .ok (acc, _, []) => tidy acc.reverse
    | _ => [.lit src]

end JobControl.Host.Script
