import JobControl.Text.Decimal
import Mathlib

/-!
# The decimal grammar

What the readers of `Text` accept, said without their fold: a numeral is a non-empty run of
ASCII digits, and its value is the number those digits denote (`Nat.ofDigits`, least significant
digit first).

* `IsDecimal ds n`: `ds` is a non-empty run of digits denoting `n`; `digitsValue?` returns exactly
  these values (`digitsValue?_eq_some_iff`).
* `IsUnsigned bound cs n`: an optional `+`, then a numeral below `bound`; the grammar of
  `readBelow?` and, with `UInt32.size`, of `readUInt32?`.
* `IsInt32 cs i`: `-` and a numeral of at most `2^31`, or an unsigned numeral below `2^31`; the
  grammar of `readInt32?`.
* `isDecimal_repr`: the decimal text of a number denotes it.
-/

namespace JobControl.Text

/-- The value of an ASCII digit. -/
def digitValue (c : Char) : Nat :=
  c.toNat - '0'.toNat

/-- `ds` is a non-empty run of ASCII digits, most significant first, denoting `n`. -/
structure IsDecimal (ds : List Char) (n : Nat) : Prop where
  ne_nil : ds ≠ []
  digits : ∀ c ∈ ds, c.isDigit = true
  value : Nat.ofDigits 10 (ds.reverse.map digitValue) = n

/-- An optional `+`, then a numeral whose value lies below `bound`. -/
def IsUnsigned (bound : Nat) (cs : List Char) (n : Nat) : Prop :=
  ∃ ds, (cs = ds ∨ cs = '+' :: ds) ∧ IsDecimal ds n ∧ n < bound

/-- A signed 32-bit numeral: `-` and a numeral of at most `2^31`, or an unsigned numeral below
`2^31`. -/
def IsInt32 (cs : List Char) (i : Int) : Prop :=
  (∃ ds m, cs = '-' :: ds ∧ IsDecimal ds m ∧ m ≤ 2 ^ 31 ∧ i = -(m : Int)) ∨
    ∃ m, IsUnsigned (2 ^ 31) cs m ∧ i = m

/-! ## Digits -/

/-- The fold by which digits are read computes the number they denote. -/
theorem ofDigitChars_eq_ofDigits (cs : List Char) :
    Nat.ofDigitChars 10 cs 0 = Nat.ofDigits 10 (cs.reverse.map digitValue) := by
  induction cs using List.reverseRecOn with
  | nil => rfl
  | append_singleton cs c ih =>
    rw [Nat.ofDigitChars_append, ih, Nat.ofDigitChars_cons, Nat.ofDigitChars_nil]
    simp only [List.reverse_append, List.reverse_cons, List.reverse_nil, List.nil_append,
      List.singleton_append, List.map_cons, Nat.ofDigits_cons, digitValue]
    omega

theorem IsDecimal.head_isDigit {c : Char} {ds : List Char} {n : Nat} (h : IsDecimal (c :: ds) n) :
    c.isDigit = true :=
  h.digits c List.mem_cons_self

/-- No numeral starts with a sign. -/
theorem not_isDecimal_plus (ds : List Char) (n : Nat) : ¬ IsDecimal ('+' :: ds) n :=
  fun h => absurd h.head_isDigit (by decide)

theorem not_isDecimal_minus (ds : List Char) (n : Nat) : ¬ IsDecimal ('-' :: ds) n :=
  fun h => absurd h.head_isDigit (by decide)

theorem digitsValue?_eq_some_iff {ds : List Char} {n : Nat} :
    digitsValue? ds = some n ↔ IsDecimal ds n := by
  cases ds with
  | nil =>
    simp only [digitsValue?, reduceCtorEq, false_iff]
    exact fun h => h.ne_nil rfl
  | cons c cs =>
    have hfold : (c :: cs).foldl (fun acc d => 10 * acc + (d.toNat - '0'.toNat)) 0 =
        Nat.ofDigits 10 ((c :: cs).reverse.map digitValue) := by
      rw [← Nat.ofDigitChars_eq_foldl, ofDigitChars_eq_ofDigits]
    simp only [digitsValue?, hfold, List.all_eq_true]
    constructor
    · intro h
      split at h
      · cases h
        exact ⟨List.cons_ne_nil c cs, by assumption, rfl⟩
      · cases h
    · intro h
      rw [if_pos h.digits, h.value]

/-! ## Unsigned numerals -/

theorem IsUnsigned.lt {bound : Nat} {cs : List Char} {n : Nat} (h : IsUnsigned bound cs n) :
    n < bound := by
  obtain ⟨-, -, -, hlt⟩ := h
  exact hlt

theorem IsUnsigned.head_ne {bound : Nat} {c : Char} {cs : List Char} {n : Nat}
    (h : IsUnsigned bound (c :: cs) n) (hplus : c ≠ '+') : c.isDigit = true := by
  obtain ⟨ds, hds | hds, hdec, -⟩ := h
  · exact (hds ▸ hdec).head_isDigit
  · exact absurd (List.cons.inj hds).1 hplus

theorem readBelow?_eq_some_iff {bound : Nat} {cs : List Char} {n : Nat} :
    readBelow? bound cs = some n ↔ IsUnsigned bound cs n := by
  unfold readBelow?
  split
  · -- a `+` is the sign: only the digits after it can be the numeral
    rename_i ds
    rw [Option.filter_eq_some_iff, digitsValue?_eq_some_iff, decide_eq_true_iff]
    constructor
    · rintro ⟨hdec, hlt⟩
      exact ⟨ds, .inr rfl, hdec, hlt⟩
    · rintro ⟨ds', hds | hds, hdec, hlt⟩
      · exact absurd (hds ▸ hdec) (not_isDecimal_plus ds n)
      · rw [(List.cons.inj hds).2]
        exact ⟨hdec, hlt⟩
  · rename_i hplus
    rw [Option.filter_eq_some_iff, digitsValue?_eq_some_iff, decide_eq_true_iff]
    constructor
    · rintro ⟨hdec, hlt⟩
      exact ⟨cs, .inl rfl, hdec, hlt⟩
    · rintro ⟨ds, hds | hds, hdec, hlt⟩
      · exact ⟨hds ▸ hdec, hlt⟩
      · exact absurd hds (hplus ds)

theorem readUInt32?_eq_some_iff {s : String} {u : UInt32} :
    readUInt32? s = some u ↔ IsUnsigned UInt32.size s.toList u.toNat := by
  rw [readUInt32?, Option.map_eq_some_iff]
  constructor
  · rintro ⟨n, hn, rfl⟩
    have hu := readBelow?_eq_some_iff.mp hn
    rw [UInt32.toNat_ofNat_of_lt' hu.lt]
    exact hu
  · intro h
    exact ⟨u.toNat, readBelow?_eq_some_iff.mpr h, UInt32.ofNat_toNat⟩

/-! ## Signed numerals -/

theorem readInt32?_eq_some_iff {s : String} {c : Int32} :
    readInt32? s = some c ↔ IsInt32 s.toList c.toInt := by
  unfold readInt32?
  simp only [Nat.pow_eq]
  split
  · -- a `-` is the sign: only a numeral can follow it
    rename_i ds hs
    rw [Option.bind_eq_some_iff]
    simp only [IsInt32, hs]
    constructor
    · rintro ⟨m, hm, hc⟩
      split at hc
      · rename_i hle
        cases hc
        refine .inl ⟨ds, m, rfl, digitsValue?_eq_some_iff.mp hm, hle, ?_⟩
        exact Int32.toInt_ofInt_of_le (by omega) (by omega)
      · cases hc
    · rintro (⟨ds', m, hds, hdec, hle, hc⟩ | ⟨m, ⟨ds', hds | hds, hdec, -⟩, -⟩)
      · cases hds
        refine ⟨m, digitsValue?_eq_some_iff.mpr hdec, ?_⟩
        rw [if_pos hle, ← hc, Int32.ofInt_toInt]
      · exact absurd (hds ▸ hdec) (not_isDecimal_minus ds m)
      · exact absurd hds (by simp)
  · -- no `-`: the unsigned grammar below `2^31`, read as a signed number
    rename_i cs hminus
    simp only [Option.map_eq_some_iff, Option.bind_eq_bind, Option.bind_eq_some_iff,
      Option.pure_def, Option.some.injEq, IsInt32]
    constructor
    · rintro ⟨_, ⟨m, hm, rfl⟩, rfl⟩
      have hu := readBelow?_eq_some_iff.mp hm
      have hlt := hu.lt
      exact .inr ⟨m, hu, Int32.toInt_ofInt_of_le (by omega) (by omega)⟩
    · rintro (⟨ds, m, hds, -⟩ | ⟨m, hu, hc⟩)
      · exact absurd hds (hminus ds)
      · refine ⟨m, ⟨m, readBelow?_eq_some_iff.mpr hu, rfl⟩, ?_⟩
        rw [← hc, Int32.ofInt_toInt]

/-! ## Printing -/

/-- The decimal text of a number is a numeral denoting it. -/
theorem isDecimal_repr (n : Nat) : IsDecimal n.repr.toList n := by
  rw [Nat.toList_repr]
  refine ⟨Nat.toDigits_ne_nil, fun c hc => Nat.isDigit_of_mem_toDigits (by decide) (by decide) hc,
    ?_⟩
  rw [← ofDigitChars_eq_ofDigits, Nat.ofDigitChars_ten_toDigits]

end JobControl.Text
