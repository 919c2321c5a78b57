import JobControl.Line.Parse
import Mathlib.Tactic.SplitIfs

/-!
# Reading a line, said without the scan

`Pipeline.parse` walks the tokens of a line once, looking one token ahead after each
redirection. `Pipeline.ofLine` says the same reading declaratively. The line is trimmed, one
trailing `&` is taken off with the blanks before it, and the rest is cut into its blank-free
pieces. Each piece's role is fixed by the piece itself and the one before it: `<`, `>`, `>>`
and `|` are operators; a piece that is no operator and follows `<`, `>` or `>>` is that
redirection's target; every other piece is a word. The line has too many stages when its pipes
reach the limit, an empty stage when the words split at the pipes leave a group empty, and
otherwise the groups are the stages and the last target of each kind is the redirection.

`parse_eq_ofLine` proves the two readings equal for every line and every limit. On the way,
the scan is shown to be a fold of one step per role (`scan_map_ofWord`), whose stages and
redirections are then read off (`groups_foldl_feed`, `input_foldl_feed`, `output_foldl_feed`),
and the words of `Text.wordsOf` are shown to be the blank-free pieces (`wordsOf_eq_pieces`).
-/

namespace JobControl

namespace Text

/-- Splitting at `p` starts with the longest prefix free of `p`; what follows it splits into an
empty piece and the same rest. -/
theorem splitOnP_takeWhile_dropWhile {α : Type} (p : α → Bool) : ∀ cs : List α,
    ∃ rest, cs.splitOnP p = cs.takeWhile (fun c => !p c) :: rest ∧
      (cs.dropWhile (fun c => !p c)).splitOnP p = [] :: rest
  | [] => ⟨[], rfl, rfl⟩
  | c :: cs => by
    by_cases hc : p c
    · exact ⟨cs.splitOnP p, by simp [List.splitOnP_cons_eq_if_modifyHead, hc]⟩
    · obtain ⟨rest, hsplit, hdrop⟩ := splitOnP_takeWhile_dropWhile p cs
      exact ⟨rest, by simp [List.splitOnP_cons_eq_if_modifyHead, hc, hsplit], by simpa [hc] using hdrop⟩

/-- The words of a text are its pieces between blanks, the empty pieces left out. -/
theorem wordsOf_eq_pieces (cs : List Char) :
    wordsOf cs = ((cs.splitOnP isBlank).filter fun piece => !piece.isEmpty).map String.ofList := by
  fun_induction wordsOf cs with
  | case1 => rfl
  | case2 c cs hc ih => simpa [List.splitOnP_cons_eq_if_modifyHead, hc] using ih
  | case3 c cs hc ih =>
    -- the word runs to the first blank; the pieces after it start with an empty one
    obtain ⟨rest, hsplit, hdrop⟩ := splitOnP_takeWhile_dropWhile isBlank cs
    rw [hdrop] at ih
    simp [List.splitOnP_cons_eq_if_modifyHead, hc, hsplit, ih]

end Text

namespace Line

/-- `<`, `>` and `>>`, the words that redirect. -/
def isRedirect (w : String) : Bool :=
  w == "<" || w == ">" || w == ">>"

/-- The operators: the redirections and `|`. -/
def isOperator (w : String) : Bool :=
  isRedirect w || w == "|"

/-- What a piece of a line is. -/
inductive Role
  | word (w : String)
  | pipe
  | redirect
  | source (path : String)
  | sink (target : Target)
  deriving DecidableEq, Repr

/-- The role of the piece `w` after the piece `prev`: an operator is itself, a piece that is no
operator and follows a redirection is its target, and any other piece is a word. -/
def Role.of (prev : Option String) (w : String) : Role :=
  if w = "|" then .pipe
  else if isRedirect w then .redirect
  else if prev = some "<" then .source w
  else if prev = some ">" then .sink ⟨w, false⟩
  else if prev = some ">>" then .sink ⟨w, true⟩
  else .word w

/-- The roles of the pieces `ws`, each read with the piece before it, `prev` before the first. -/
def roles (prev : Option String) : List String → List Role
  | [] => []
  | w :: ws => Role.of prev w :: roles (some w) ws

/-- The words split at the pipes, one group per stage. -/
def Role.groups : List Role → List (List String)
  | [] => [[]]
  | .word w :: rs => (groups rs).modifyHead (w :: ·)
  | .pipe :: rs => [] :: groups rs
  | _ :: rs => groups rs

/-- The targets of `<`, in order. -/
def Role.sources (rs : List Role) : List String :=
  rs.filterMap fun | .source path => some path | _ => none

/-- The targets of `>` and `>>`, in order. -/
def Role.sinks (rs : List Role) : List Target :=
  rs.filterMap fun | .sink target => some target | _ => none

end Line

open Line in
/-- The reading of the body of a line, said without the scan: `none` for an empty body; too many
stages when the number of pipes reaches a limit of at least one; an empty stage when a group of
words between pipes is empty; and otherwise the groups as stages, with the last target of `<` as
input and the last target of `>` or `>>` as output. -/
def Pipeline.ofBody (body : List Char) (background : Bool) (maxStages : Nat) :
    Except ParseError (Option Pipeline) :=
  if body = [] then .ok none
  else
    let pieces := ((body.splitOnP Text.isBlank).filter fun piece => !piece.isEmpty).map String.ofList
    let rs := roles none pieces
    if 1 ≤ maxStages ∧ maxStages ≤ pieces.count "|" then .error (.tooManyStages maxStages)
    else if [] ∈ Role.groups rs then .error .emptyStage
    else
      match (Role.groups rs).mapM Stage.ofWords? with
      | some (first :: rest) =>
        .ok (some ⟨first, rest, (Role.sources rs).getLast?, (Role.sinks rs).getLast?, background⟩)
      | _ => .error .emptyStage

/-- The reading of a line: trimmed at both ends, and when it then ends in `&`, run in the
background with the `&` and the blanks before it taken off. -/
def Pipeline.ofLine (line : String) (maxStages : Nat) : Except ParseError (Option Pipeline) :=
  let t := Text.trimChars line.toList
  if t.getLast? = some '&' then ofBody (Text.trimEndChars t.dropLast) true maxStages
  else ofBody t false maxStages

namespace Line

/-! ## Roles -/

theorem isRedirect_iff {w : String} : isRedirect w = true ↔ w = "<" ∨ w = ">" ∨ w = ">>" := by
  simp [isRedirect, or_assoc]

theorem isRedirect_eq_false_iff {w : String} :
    isRedirect w = false ↔ w ≠ "<" ∧ w ≠ ">" ∧ w ≠ ">>" := by
  simp [isRedirect, and_assoc]

theorem isOperator_eq_false {w : String} (hw : isOperator w = false) :
    isRedirect w = false ∧ w ≠ "|" := by
  simpa [isOperator] using hw

theorem role_of_operator {w : String} (hw : isOperator w = true) (prev : Option String) :
    Role.of prev w = Role.of none w := by
  by_cases hp : w = "|"
  · simp [Role.of, hp]
  · have hr : isRedirect w = true := by simpa [isOperator, hp] using hw
    simp [Role.of, hp, hr]

/-- After a piece that does not redirect, the next piece is read as at the start of the line. -/
theorem roles_of_not_redirect {p : String} (hp : isRedirect p = false) :
    ∀ ws : List String, roles (some p) ws = roles none ws
  | [] => rfl
  | w :: ws => by
    obtain ⟨hlt, hgt, happ⟩ := isRedirect_eq_false_iff.mp hp
    simp [roles, Role.of, hlt, hgt, happ]

theorem role_of_ne_pipe {prev : Option String} {w : String} (hw : w ≠ "|") :
    Role.of prev w ≠ .pipe := by
  unfold Role.of
  split_ifs <;> simp_all

/-! ## Tokens -/

theorem ofWord_of_not_operator {w : String} (hw : isOperator w = false) :
    Token.ofWord w = .word w := by
  obtain ⟨hr, hpipe⟩ := isOperator_eq_false hw
  obtain ⟨hlt, hgt, happ⟩ := isRedirect_eq_false_iff.mp hr
  simp [Token.ofWord, hlt, hgt, happ, hpipe]

theorem ofWord_ne_word {w : String} (hw : isOperator w = true) (v : String) :
    Token.ofWord w ≠ .word v := by
  unfold Token.ofWord
  split_ifs <;> simp_all [isOperator, isRedirect]

/-! ## The scan as a fold over roles -/

/-- What the scan does with a piece of role `r`. -/
def Scan.feed (s : Scan) : Role → Scan
  | .word w => { s with current := w :: s.current }
  | .pipe => { s with closed := s.current.reverse :: s.closed, current := [] }
  | .redirect => s
  | .source path => { s with input := some path }
  | .sink target => { s with output := some target }

theorem Scan.feed_closed {r : Role} (hr : r ≠ .pipe) (s : Scan) : (s.feed r).closed = s.closed := by
  cases r <;> simp_all [Scan.feed]

/-- A redirection followed by a word takes the word as its target. -/
theorem scan_redirect_word {m : Nat} {w t : String} (hw : isRedirect w = true)
    (ht : isOperator t = false) (rest : List Token) (s : Scan) :
    scan m (Token.ofWord w :: .word t :: rest) s = scan m rest (s.feed (Role.of (some w) t)) := by
  obtain ⟨htr, htp⟩ := isOperator_eq_false ht
  rcases isRedirect_iff.mp hw with rfl | rfl | rfl <;>
    simp [Token.ofWord, scan, Role.of, Scan.feed, htr, htp]

/-- A redirection followed by anything but a word is dropped. -/
theorem scan_redirect_other {m : Nat} {w : String} (hw : isRedirect w = true) (toks : List Token)
    (htoks : ∀ t rest, toks ≠ .word t :: rest) (s : Scan) :
    scan m (Token.ofWord w :: toks) s = scan m toks s := by
  rcases toks with _ | ⟨_ | _ | _ | _ | _, rest⟩
  all_goals first
    | exact absurd rfl (htoks _ _)
    | rcases isRedirect_iff.mp hw with rfl | rfl | rfl <;> rfl

/-- The scan is a fold of `Scan.feed` over the roles of the pieces, except that it stops at the
pipe that would open stage `m + 1` counting the stages already closed. -/
theorem scan_map_ofWord (m : Nat) : ∀ (ws : List String) (s : Scan),
    scan m (ws.map Token.ofWord) s =
      if s.closed.length < m ∧ m ≤ s.closed.length + ws.count "|" then .error (.tooManyStages m)
      else .ok ((roles none ws).foldl Scan.feed s)
  | [], s => by
    simp only [List.map_nil, scan, roles, List.foldl_nil]
    split
    · next h => rw [List.count_nil] at h; omega
    · rfl
  | w :: ws, s => by
    cases hop : isOperator w with
    | false =>
      obtain ⟨hw, hpipe⟩ := isOperator_eq_false hop
      have hroles : roles none (w :: ws) = .word w :: roles none ws := by
        simp [roles, roles_of_not_redirect hw, Role.of, hpipe, hw]
      rw [List.map_cons, ofWord_of_not_operator hop, scan, scan_map_ofWord m ws, hroles,
        List.count_cons_of_ne hpipe]
      rfl
    | true =>
      by_cases hpipe : w = "|"
      · -- a pipe closes the open stage, unless that makes one stage too many
        subst hpipe
        have hroles : roles none ("|" :: ws) = .pipe :: roles none ws :=
          congrArg (Role.pipe :: ·) (roles_of_not_redirect (by decide) ws)
        rw [List.map_cons, show Token.ofWord "|" = .pipe by decide, scan, scan_map_ofWord m ws,
          hroles, List.foldl_cons, List.count_cons_self]
        simp only [Scan.feed, List.length_cons]
        split_ifs <;> first | rfl | omega
      · -- a redirection: its target is the next piece, when that is no operator
        have hw : isRedirect w = true := by simpa [isOperator, hpipe] using hop
        have hhead : Role.of none w = .redirect := by simp [Role.of, hpipe, hw]
        rw [List.count_cons_of_ne hpipe, List.map_cons]
        rcases ws with _ | ⟨t, rest⟩
        · rw [List.map_nil, scan_redirect_other hw [] (by simp), scan,
            if_neg (by rw [List.count_nil]; omega)]
          simp only [roles, hhead, List.foldl_cons, List.foldl_nil, Scan.feed]
        · cases ht : isOperator t with
          | true =>
            have hnext : ∀ v r, (t :: rest).map Token.ofWord ≠ .word v :: r := by
              intro v r h
              rw [List.map_cons] at h
              exact ofWord_ne_word ht v (List.cons.inj h).1
            rw [scan_redirect_other hw _ hnext, scan_map_ofWord m (t :: rest)]
            simp only [roles, hhead, List.foldl_cons, Scan.feed, role_of_operator ht (some w)]
          | false =>
            obtain ⟨htr, htp⟩ := isOperator_eq_false ht
            rw [List.map_cons, ofWord_of_not_operator ht, scan_redirect_word hw ht,
              scan_map_ofWord m rest, Scan.feed_closed (role_of_ne_pipe htp),
              List.count_cons_of_ne htp]
            simp only [roles, hhead, List.foldl_cons, Scan.feed, roles_of_not_redirect htr]

/-! ## What the fold gathers -/

theorem modifyHead_self {α : Type} (gs : List α) : gs.modifyHead (fun g => g) = gs :=
  congrFun List.modifyHead_id gs

theorem groups_foldl_feed : ∀ (rs : List Role) (s : Scan),
    (rs.foldl Scan.feed s).groups =
      s.closed.reverse ++ (Role.groups rs).modifyHead (s.current.reverse ++ ·)
  | [], s => by simp [Scan.groups, Role.groups]
  | .word w :: rs, s => by
    simp [Role.groups, groups_foldl_feed rs, Scan.feed, List.modifyHead_modifyHead, Function.comp_def]
  | .pipe :: rs, s => by simp [Role.groups, groups_foldl_feed rs, Scan.feed, modifyHead_self]
  | .redirect :: rs, s => by simp [Role.groups, groups_foldl_feed rs, Scan.feed]
  | .source _ :: rs, s => by simp [Role.groups, groups_foldl_feed rs, Scan.feed]
  | .sink _ :: rs, s => by simp [Role.groups, groups_foldl_feed rs, Scan.feed]

theorem getLast?_cons_eq_or {α : Type} (a : α) (l : List α) :
    (a :: l).getLast? = l.getLast?.or (some a) := by
  cases h : l.getLast? <;> simp_all [List.getLast?_cons]

/-- The input is the last target of `<`, or what the scan had before. -/
theorem input_foldl_feed : ∀ (rs : List Role) (s : Scan),
    (rs.foldl Scan.feed s).input = (Role.sources rs).getLast?.or s.input
  | [], s => by simp [Role.sources]
  | .source path :: rs, s => by
    have hsources : Role.sources (.source path :: rs) = path :: Role.sources rs := rfl
    rw [List.foldl_cons, input_foldl_feed rs, hsources, getLast?_cons_eq_or, Option.or_assoc]
    rfl
  | .word _ :: rs, s | .pipe :: rs, s | .redirect :: rs, s | .sink _ :: rs, s => by
    rw [List.foldl_cons, input_foldl_feed rs]
    rfl

/-- The output is the last target of `>` or `>>`, or what the scan had before. -/
theorem output_foldl_feed : ∀ (rs : List Role) (s : Scan),
    (rs.foldl Scan.feed s).output = (Role.sinks rs).getLast?.or s.output
  | [], s => by simp [Role.sinks]
  | .sink target :: rs, s => by
    have hsinks : Role.sinks (.sink target :: rs) = target :: Role.sinks rs := rfl
    rw [List.foldl_cons, output_foldl_feed rs, hsinks, getLast?_cons_eq_or, Option.or_assoc]
    rfl
  | .word _ :: rs, s | .pipe :: rs, s | .redirect :: rs, s | .source _ :: rs, s => by
    rw [List.foldl_cons, output_foldl_feed rs]
    rfl

/-- A group without words makes no stage. -/
theorem mapM_ofWords_eq_none {gs : List (List String)} (h : [] ∈ gs) :
    gs.mapM Stage.ofWords? = none := by
  induction gs with
  | nil => cases h
  | cons g gs ih =>
    rcases List.mem_cons.mp h with rfl | hmem
    · rfl
    · simp [List.mapM_cons, ih hmem]

end Line

open Line in
/-- The scan and the stages it finishes read a body as `Pipeline.ofBody` says. -/
theorem scan_finish_eq_ofBody {body : List Char} (hbody : body ≠ []) (background : Bool)
    (maxStages : Nat) :
    (do
      let s ← scan maxStages ((Text.wordsOf body).map Token.ofWord) {}
      let p ← s.finish background
      return some p) = Pipeline.ofBody body background maxStages := by
  unfold Pipeline.ofBody
  rw [if_neg hbody, Text.wordsOf_eq_pieces, scan_map_ofWord]
  generalize ((body.splitOnP Text.isBlank).filter fun piece => !piece.isEmpty).map String.ofList
    = pieces
  have hgroups : ((roles none pieces).foldl Scan.feed {}).groups = Role.groups (roles none pieces) := by
    simp [groups_foldl_feed, modifyHead_self]
  simp only [List.length_nil, Nat.zero_add, Nat.succ_le_iff]
  split_ifs with hmany hempty
  · rfl
  · simp only [bind, Except.bind, Scan.finish, hgroups, mapM_ofWords_eq_none hempty]
  · simp only [bind, Except.bind, Scan.finish, hgroups, input_foldl_feed, output_foldl_feed,
      Option.or_none]
    rcases (Role.groups (roles none pieces)).mapM Stage.ofWords? with _ | _ | ⟨first, rest⟩ <;> rfl

/-- The parser reads every line under every stage limit as `Pipeline.ofLine` says. -/
theorem Pipeline.parse_eq_ofLine (line : String) (maxStages : Nat) :
    Pipeline.parse line maxStages = Pipeline.ofLine line maxStages := by
  unfold Pipeline.parse Pipeline.ofLine Line.splitBackground
  by_cases hamp : (Text.trimChars line.toList).getLast? = some '&'
  all_goals
    simp only [hamp, ↓reduceIte]
    split
    · next hempty => simp [Pipeline.ofBody, List.isEmpty_iff.mp hempty]
    · next hbody => exact scan_finish_eq_ofBody (by simpa using hbody) _ _

example : Pipeline.ofLine "cat < in > x >> y | wc <&" 16 =
    .ok (some ⟨⟨"cat", []⟩, [⟨"wc", []⟩], some "in", some ⟨"y", true⟩, true⟩) := by
  cbv

end JobControl
