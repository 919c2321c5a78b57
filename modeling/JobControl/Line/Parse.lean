import JobControl.Text.Blank
import JobControl.Line.Pipeline

/-!
# Reading a command line

`Pipeline.parse line maxStages` reads a line into a pipeline:

1. blanks at both ends go, then one trailing `&` (which marks a background line), then the blanks
   before it; nothing left means an empty line (`none`);
2. the rest splits into words at blanks; `<`, `>`, `>>` and `|` are operators;
3. `<`, `>` and `>>` take the next word as their file unless it is an operator, and the last
   of each kind wins; an operator without a file is dropped;
4. a `|` that would open stage `maxStages + 1` is refused at once (`tooManyStages`), so this
   check comes before the one for empty stages and never fires when `maxStages` is 0;
5. after the last word, a stage without words is refused (`emptyStage`).
-/

namespace JobControl

/-- Why a line is refused. -/
inductive ParseError
  | tooManyStages (max : Nat)
  | emptyStage
  deriving DecidableEq, Repr

/-- The diagnostic printed for a refused line. -/
def ParseError.message : ParseError → String
  | .tooManyStages max => "too many pipeline stages (max " ++ toString max ++ ")"
  | .emptyStage => "syntax error: empty command in pipeline"

namespace Line

open Text

/-- A word of the line, classified. -/
inductive Token
  | word (text : String)
  | readFrom
  | writeTo
  | appendTo
  | pipe
  deriving DecidableEq, Repr

/-- `<`, `>`, `>>` and `|` are operators; every other word is a word. -/
def Token.ofWord (w : String) : Token :=
  if w = "<" then .readFrom
  else if w = ">" then .writeTo
  else if w = ">>" then .appendTo
  else if w = "|" then .pipe
  else .word w

/-- The line without blanks at its ends and without one trailing `&` (and the blanks before
it), with whether the `&` was there. -/
def splitBackground (line : String) : List Char × Bool :=
  let t := trimChars line.toList
  if t.getLast? = some '&' then (trimEndChars t.dropLast, true) else (t, false)

/-- What the scan has gathered: the finished stages (last first, each in order), the words of
the open stage (last first), and the redirections. -/
structure Scan where
  closed : List (List String) := []
  current : List String := []
  input : Option String := none
  output : Option Target := none

/-- The stages seen so far, in order, the open one last. -/
def Scan.groups (s : Scan) : List (List String) :=
  (s.current.reverse :: s.closed).reverse

/-- Walks the tokens left to right; a `|` that would exceed `max` stages stops the walk. -/
def scan (max : Nat) : List Token → Scan → Except ParseError Scan
  | [], s => .ok s
  | .readFrom :: .word t :: rest, s => scan max rest { s with input := some t }
  | .writeTo :: .word t :: rest, s => scan max rest { s with output := some ⟨t, false⟩ }
  | .appendTo :: .word t :: rest, s => scan max rest { s with output := some ⟨t, true⟩ }
  | .readFrom :: rest, s => scan max rest s
  | .writeTo :: rest, s => scan max rest s
  | .appendTo :: rest, s => scan max rest s
  | .pipe :: rest, s =>
    if s.closed.length + 1 = max then .error (.tooManyStages max)
    else scan max rest { s with closed := s.current.reverse :: s.closed, current := [] }
  | .word w :: rest, s => scan max rest { s with current := w :: s.current }

/-- The pipeline a finished scan describes, refused when a stage has no words. -/
def Scan.finish (s : Scan) (background : Bool) : Except ParseError Pipeline :=
  match s.groups.mapM Stage.ofWords? with
  | some (first :: rest) => .ok ⟨first, rest, s.input, s.output, background⟩
  | _ => .error .emptyStage

end Line

open Line in
/-- Reads a command line: `none` for a line with nothing to run, else its pipeline. -/
def Pipeline.parse (line : String) (maxStages : Nat) : Except ParseError (Option Pipeline) :=
  let (body, background) := splitBackground line
  if body.isEmpty then .ok none
  else do
    let s ← scan maxStages ((Text.wordsOf body).map Token.ofWord) {}
    let p ← s.finish background
    return some p

example : Pipeline.parse " & " 16 = .ok none := by
  cbv

end JobControl
