/-!
# Blank characters

A command line is cut at blanks: the characters of Unicode's White_Space property, among them
the vertical tab, the form feed, U+0085, the no-break space U+00A0, the ideographic space U+3000
and the line and paragraph separators. U+200B and U+FEFF are not blanks.

* `isBlank`: the property itself, as a table of code-point ranges.
* `trimChars`, `trimEndChars`, `trim`, `trimEnd`: strip blanks from both ends or from the end.
* `wordsOf`, `words`: the maximal runs of non-blank characters, in order.

`isBlank_of_isWhitespace` says that the table holds core's ASCII whitespace class.
-/

namespace JobControl.Text

/-- The White_Space property: nine ranges of code points, 25 characters in all. -/
def isBlank (c : Char) : Bool :=
  let n := c.toNat
  (0x09 ≤ n && n ≤ 0x0D) || n == 0x20 || n == 0x85 || n == 0xA0 || n == 0x1680 ||
    (0x2000 ≤ n && n ≤ 0x200A) || n == 0x2028 || n == 0x2029 || n == 0x202F ||
    n == 0x205F || n == 0x3000

theorem isBlank_of_isWhitespace (c : Char) (h : c.isWhitespace = true) : isBlank c = true := by
  simp only [Char.isWhitespace, Bool.or_eq_true, decide_eq_true_eq] at h
  rcases h with ((h | h) | h) | h <;> subst h <;> decide

example : isBlank '\u3000' ∧ isBlank '\x0b' ∧ isBlank '\u0085' ∧ !isBlank '\u200b' ∧ !isBlank '\ufeff' := by
  decide

/-! ## Trimming -/

/-- Drops the blanks at the end of a character list. -/
def trimEndChars (cs : List Char) : List Char :=
  (cs.reverse.dropWhile isBlank).reverse

/-- Drops the blanks at both ends of a character list. -/
def trimChars (cs : List Char) : List Char :=
  trimEndChars (cs.dropWhile isBlank)

/-- The text without its trailing blanks. -/
def trimEnd (s : String) : String :=
  String.ofList (trimEndChars s.toList)

/-- The text without its leading and trailing blanks. -/
def trim (s : String) : String :=
  String.ofList (trimChars s.toList)

/-! ## Words -/

theorem length_dropWhile_le (p : Char → Bool) (cs : List Char) :
    (cs.dropWhile p).length ≤ cs.length := by
  induction cs with
  | nil => simp
  | cons c r ih =>
    rw [List.dropWhile_cons]
    split
    · exact Nat.le_succ_of_le ih
    · exact Nat.le_refl _

/-- The maximal runs of non-blank characters, left to right. -/
def wordsOf : List Char → List String
  | [] => []
  | c :: cs =>
    if isBlank c then wordsOf cs
    else
      String.ofList (c :: cs.takeWhile (fun d => !isBlank d)) ::
        wordsOf (cs.dropWhile (fun d => !isBlank d))
termination_by cs => cs.length
decreasing_by
  all_goals simp only [List.length_cons]
  · exact Nat.lt_succ_self _
  · exact Nat.lt_succ_of_le (length_dropWhile_le _ _)

/-- The words of a text: what is left between blanks, none of them empty. -/
def words (s : String) : List String :=
  wordsOf s.toList

example : words "a b　 c​d" = ["a", "b", "c​d"] := by decide +kernel

end JobControl.Text
