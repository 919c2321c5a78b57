/-!
# Quoting text in messages

How the utilities show an operand or a file name inside a message, and how `printf %q` shows
an argument.

* `quote`: between the quotes of the locale, `‘` and `’`, with backslash escapes;
* `quoteFile`: always quoted for the shell;
* `showFile`: quoted for the shell only when the shell would read it otherwise.
-/

namespace JobControl.Host

namespace Tool

/-- The escape of a character in quoted text: a backslash, a control character by its letter
or as three octal digits; `none` for a character that stands as it is. -/
def escapeOf? (c : Char) : Option String :=
  match c with
  | '\\' => some "\\\\"
  | '\x07' => some "\\a"
  | '\x08' => some "\\b"
  | '\x0c' => some "\\f"
  | '\n' => some "\\n"
  | '\r' => some "\\r"
  | '\t' => some "\\t"
  | '\x0b' => some "\\v"
  | _ =>
    if c.toNat < 32 || c.toNat = 127 then
      some (String.ofList ['\\', Char.ofNat (48 + c.toNat / 64), Char.ofNat (48 + c.toNat / 8 % 8),
        Char.ofNat (48 + c.toNat % 8)])
    else none

/-- Text in the quotes of the locale, `‘` and `’`, with backslash escapes for backslashes and
control characters: how the utilities show an operand inside a message. -/
def quote (s : String) : String :=
  "‘" ++ String.join (s.toList.map fun c => (escapeOf? c).getD (String.singleton c)) ++ "’"

/-- A file name as the utilities show it in a message, always quoted for the shell: between
double quotes when it holds a single quote and nothing that double quotes would change, else
between single quotes, a single quote written as `'\\''` and a control character as `'$'\\n''`. -/
def quoteFile (s : String) : String :=
  let cs := s.toList
  let plain (c : Char) : Bool := c.toNat ≥ 32 && c.toNat ≠ 127
  if cs.contains '\x27' && cs.all fun c => plain c && c ≠ '"' && c ≠ '$' && c ≠ '\x60' && c ≠ '\\' then
    "\"" ++ s ++ "\""
  else
    "'" ++ String.join (cs.map fun c =>
      if c = '\x27' then "'\\''"
      else if plain c then String.singleton c
      else "'$'" ++ ((escapeOf? c).getD (String.singleton c)) ++ "''") ++ "'"

/-- A file name as the utilities show it where quotes are needed only for the shell: as it
is, unless it is empty, holds a character the shell treats specially or a control character,
starts with `#` or `~`, or is a lone brace; then as `quoteFile` shows it. -/
def showFile (s : String) : String :=
  let special := " !\"$&\x27()*;<=>?[\\^\x60|".toList
  let cs := s.toList
  let needs := cs.isEmpty || cs.any (fun c => special.contains c || c.toNat < 32 || c.toNat = 127) ||
    cs.head? = some '#' || cs.head? = some '~' || s = "\x7b" || s = "\x7d"
  if needs then quoteFile s else s

end Tool

end JobControl.Host
