/-!
# Shell patterns

The patterns of `case`, of `${name#pattern}` and of file names: `*` matches any text, `?` any
one character, and `[...]` one character of a set (ranges `a-z`, classes `[:digit:]`, negation
by a leading `!` or `^`; a `]` first in the set stands for itself). A `[` without its `]` is an
ordinary character. Quoted characters always stand for themselves.

* `Pattern.compile` reads pattern characters into pieces, `Pattern.accepts` tests a whole text;
* `Pattern.dropPrefix` and `Pattern.dropSuffix` remove the shortest or longest matching end;
* `Pattern.isLiteral` says whether a pattern has no special piece, so that a word with no
  pattern in it is never looked up as file names.
-/

namespace JobControl.Host.Script

/-- One character of a pattern, and whether it was quoted. -/
structure PatChar where
  char : Char
  quoted : Bool
  deriving DecidableEq, Repr

/-- A member of a bracket set. -/
inductive SetItem
  | single (c : Char)
  | range (lo hi : Char)
  | named (cls : String)
  deriving DecidableEq, Repr

/-- A piece of a compiled pattern. -/
inductive Piece
  | one (c : Char)
  | any
  | star
  | set (negated : Bool) (items : List SetItem)
  deriving DecidableEq, Repr

/-- A compiled pattern. -/
abbrev Pattern := List Piece

namespace Pattern

/-- Whether a character belongs to a named class of the C locale. -/
def inClass (cls : String) (c : Char) : Bool :=
  let n := c.toNat
  match cls with
  | "alpha" => c.isAlpha
  | "digit" => c.isDigit
  | "alnum" => c.isAlphanum
  | "upper" => c.isUpper
  | "lower" => c.isLower
  | "space" => n = 32 || (9 ≤ n && n ≤ 13)
  | "blank" => n = 32 || n = 9
  | "punct" => 33 ≤ n && n ≤ 126 && !c.isAlphanum
  | "print" => 32 ≤ n && n ≤ 126
  | "graph" => 33 ≤ n && n ≤ 126
  | "cntrl" => n < 32 || n = 127
  | "xdigit" => c.isDigit || ('a' ≤ c && c ≤ 'f') || ('A' ≤ c && c ≤ 'F')
  | _ => false

end Pattern

/-- Whether a character is a member of a set. -/
def SetItem.admits (c : Char) : SetItem → Bool
  | .single d => c == d
  | .range lo hi => lo ≤ c && c ≤ hi
  | .named cls => Pattern.inClass cls c

/-- Puts a member in front of the members read after it. -/
def SetItem.prepend (i : SetItem) :
    Option (List SetItem × List PatChar) → Option (List SetItem × List PatChar) :=
  Option.map fun (is, r) => (i :: is, r)

namespace Pattern

/-- Reads a class name up to `:]`, giving the name and the rest. -/
def className : List PatChar → Option (String × List PatChar)
  | [] => none
  | ⟨':', false⟩ :: ⟨']', false⟩ :: rest => some ("", rest)
  | p :: rest =>
    if p.char.isAlpha then (className rest).map fun (s, r) => (String.singleton p.char ++ s, r)
    else none

/-- Reads the members of a set up to its closing `]`; `none` when there is none. `first` tells
whether a `]` would be the first member, where it stands for itself; `fuel` bounds the members
read. -/
def setItems : Nat → Bool → List PatChar → Option (List SetItem × List PatChar)
  | 0, _, _ => none
  | _ + 1, _, [] => none
  | fuel + 1, first, ⟨']', false⟩ :: rest =>
    if first then (SetItem.single ']').prepend (setItems fuel false rest) else some ([], rest)
  | fuel + 1, _, ⟨'[', false⟩ :: ⟨':', false⟩ :: rest =>
    match className rest with
    | some (cls, rest') => (SetItem.named cls).prepend (setItems fuel false rest')
    | none => (SetItem.single '[').prepend (setItems fuel false (⟨':', false⟩ :: rest))
  | fuel + 1, _, p :: ⟨'-', false⟩ :: q :: rest =>
    if q.char = ']' && !q.quoted then
      (SetItem.single p.char).prepend (setItems fuel false (⟨'-', false⟩ :: q :: rest))
    else (SetItem.range p.char q.char).prepend (setItems fuel false rest)
  | fuel + 1, _, p :: rest => (SetItem.single p.char).prepend (setItems fuel false rest)

/-- Reads pattern characters into pieces; `fuel` bounds the pieces read. -/
def compileWith : Nat → List PatChar → Pattern
  | 0, _ => []
  | _ + 1, [] => []
  | fuel + 1, ⟨'*', false⟩ :: rest => .star :: compileWith fuel rest
  | fuel + 1, ⟨'?', false⟩ :: rest => .any :: compileWith fuel rest
  | fuel + 1, ⟨'[', false⟩ :: rest =>
    let (neg, body) := match rest with
      | ⟨'!', false⟩ :: b => (true, b)
      | ⟨'^', false⟩ :: b => (true, b)
      | b => (false, b)
    match setItems (body.length + 1) true body with
    | some (items, after) => .set neg items :: compileWith fuel after
    | none => .one '[' :: compileWith fuel rest
  | fuel + 1, p :: rest => .one p.char :: compileWith fuel rest

/-- Reads pattern characters into pieces. Each piece takes at least one character, so the
length of the text is enough fuel. -/
def compile (cs : List PatChar) : Pattern :=
  compileWith (cs.length + 1) cs

/-- Whether a pattern matches a whole text. -/
def accepts : Pattern → List Char → Bool
  | [], s => s.isEmpty
  | .star :: ps, s => (List.range (s.length + 1)).any fun i => accepts ps (s.drop i)
  | .any :: ps, _ :: s => accepts ps s
  | .one d :: ps, c :: s => c == d && accepts ps s
  | .set neg items :: ps, c :: s => (items.any (SetItem.admits c) != neg) && accepts ps s
  | _ :: _, [] => false

/-- Whether a pattern has no special piece. -/
def isLiteral (p : Pattern) : Bool :=
  p.all fun | .one _ => true | _ => false

/-- Removes the shortest (or longest) prefix that the pattern matches. -/
def dropPrefix (p : Pattern) (longest : Bool) (s : String) : String :=
  let cs := s.toList
  let lens := List.range (cs.length + 1)
  let order := if longest then lens.reverse else lens
  match order.find? (fun i => accepts p (cs.take i)) with
  | some i => String.ofList (cs.drop i)
  | none => s

/-- Removes the shortest (or longest) suffix that the pattern matches. -/
def dropSuffix (p : Pattern) (longest : Bool) (s : String) : String :=
  let cs := s.toList
  let lens := List.range (cs.length + 1)
  let order := if longest then lens.reverse else lens
  match order.find? (fun i => accepts p (cs.drop (cs.length - i))) with
  | some i => String.ofList (cs.take (cs.length - i))
  | none => s

/-- Pattern characters of a text in which nothing is quoted. -/
def plain (s : String) : List PatChar :=
  s.toList.map (⟨·, false⟩)

example : accepts (compile (plain "[]x]")) "]".toList = true := by decide +kernel

end Pattern

end JobControl.Host.Script
