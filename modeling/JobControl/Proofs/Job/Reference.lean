import JobControl.Proofs.Text.Decimal
import JobControl.Job.Id

/-!
# Job references

A job is referred to by its number, written `N` or `%N`: at most one `%`, then an unsigned
32-bit numeral (`Text.IsUnsigned`: a `+` and leading zeros are allowed) whose value is not zero.

* `JobId.Names s n`: the text `s` refers to job number `n`.
* `ofString?_eq_ok_iff`, `ofString?_eq_error_iff`: `ofString?` accepts exactly the references,
  with the number they name, and otherwise fails quoting the whole text.
* `ofString?_reads_references`: that, and `ofString?` reads back a printed number with or
  without its `%`.
-/

namespace JobControl.JobId

open Text

/-- The text `s` refers to job number `n`: after at most one leading `%`, an unsigned 32-bit
numeral whose value `n` is not zero. -/
def Names (s : String) (n : Nat) : Prop :=
  ∃ cs, (s.toList = cs ∨ s.toList = '%' :: cs) ∧ IsUnsigned UInt32.size cs n ∧ 0 < n

theorem ne_zero_iff_toNat_pos (n : UInt32) : n ≠ 0 ↔ 0 < n.toNat := by
  rw [Nat.pos_iff_ne_zero, ne_eq, ne_eq, ← UInt32.toNat_inj]
  rfl

theorem Names.lt_size {s : String} {n : Nat} (h : Names s n) : n < UInt32.size := by
  obtain ⟨cs, -, hu, -⟩ := h
  exact hu.lt

/-- A numeral never starts with `%`, so the `%` of a reference is never part of its number. -/
theorem not_isUnsigned_percent {bound : Nat} (cs : List Char) (n : Nat) :
    ¬ IsUnsigned bound ('%' :: cs) n :=
  fun h => absurd (h.head_ne (by decide)) (by decide)

theorem dropPercent_of_percent {s : String} {cs : List Char} (h : s.toList = '%' :: cs) :
    (dropPercent s).toList = cs := by
  simp [dropPercent, h]

theorem dropPercent_of_not_percent {s : String} (h : ∀ cs, s.toList ≠ '%' :: cs) :
    dropPercent s = s := by
  unfold dropPercent
  split
  · rename_i cs hs
    exact absurd hs (h cs)
  · rfl

/-- Reading after the `%` is reading the text with at most one `%` taken off. -/
theorem isUnsigned_dropPercent_iff {bound : Nat} {s : String} {n : Nat} :
    IsUnsigned bound (dropPercent s).toList n ↔
      ∃ cs, (s.toList = cs ∨ s.toList = '%' :: cs) ∧ IsUnsigned bound cs n := by
  by_cases hp : ∃ cs, s.toList = '%' :: cs
  · obtain ⟨cs, hs⟩ := hp
    rw [dropPercent_of_percent hs]
    constructor
    · exact fun h => ⟨cs, .inr hs, h⟩
    · rintro ⟨cs', hcs | hcs, h⟩
      · exact absurd (hs ▸ hcs ▸ h) (not_isUnsigned_percent cs n)
      · rw [hs, List.cons.injEq] at hcs
        exact hcs.2 ▸ h
  · rw [dropPercent_of_not_percent (not_exists.mp hp)]
    constructor
    · exact fun h => ⟨s.toList, .inl rfl, h⟩
    · rintro ⟨cs, hcs | hcs, h⟩
      · exact hcs ▸ h
      · exact absurd ⟨cs, hcs⟩ hp

/-- `ofString?` fails only by quoting the text it was given. -/
theorem eq_of_ofString?_eq_error {s : String} {e : RefError} (h : ofString? s = .error e) :
    e = ⟨s⟩ := by
  unfold ofString? at h
  split at h
  · split at h
    · cases h
      rfl
    · cases h
  · cases h
    rfl

theorem ofString?_eq_ok_iff {s : String} {id : JobId} :
    ofString? s = .ok id ↔ Names s id.val.toNat := by
  have hread : ofString? s = .ok id ↔ readUInt32? (dropPercent s) = some id.val ∧ id.val ≠ 0 := by
    unfold ofString?
    split
    · rename_i n hn
      split
      · rename_i h0
        simp only [reduceCtorEq, false_iff, not_and, not_not]
        intro hid
        rw [hn, Option.some.injEq] at hid
        exact hid ▸ h0
      · rename_i h0
        rw [Except.ok.injEq, hn, Option.some.injEq]
        constructor
        · rintro rfl
          exact ⟨rfl, h0⟩
        · rintro ⟨rfl, -⟩
          rfl
    · rename_i hn
      simp [hn]
  rw [hread, readUInt32?_eq_some_iff, isUnsigned_dropPercent_iff, Names]
  rw [ne_zero_iff_toNat_pos]
  constructor
  · rintro ⟨⟨cs, hcs, hu⟩, hlt⟩
    exact ⟨cs, hcs, hu, hlt⟩
  · rintro ⟨cs, hcs, hu, hlt⟩
    exact ⟨⟨cs, hcs, hu⟩, hlt⟩

theorem ofString?_eq_error_iff {s : String} {e : RefError} :
    ofString? s = .error e ↔ e = ⟨s⟩ ∧ ∀ n, ¬ Names s n := by
  constructor
  · intro h
    refine ⟨eq_of_ofString?_eq_error h, fun n hn => ?_⟩
    have hok : ofString? s = .ok ⟨UInt32.ofNat n⟩ := by
      rw [ofString?_eq_ok_iff, UInt32.toNat_ofNat_of_lt' hn.lt_size]
      exact hn
    rw [hok] at h
    cases h
  · rintro ⟨rfl, hnone⟩
    cases hr : ofString? s with
    | error e => rw [eq_of_ofString?_eq_error hr]
    | ok id => exact absurd (ofString?_eq_ok_iff.mp hr) (hnone _)

/-- A printed job number refers to that number, with or without a `%` before it. -/
theorem names_toString {n : UInt32} (h : n ≠ 0) :
    Names (JobId.toString ⟨n⟩) n.toNat ∧ Names ("%" ++ JobId.toString ⟨n⟩) n.toNat := by
  have hu : IsUnsigned UInt32.size (Nat.repr n.toNat).toList n.toNat :=
    ⟨_, .inl rfl, isDecimal_repr n.toNat, n.toNat_lt_size⟩
  have hpos : 0 < n.toNat := (ne_zero_iff_toNat_pos n).mp h
  exact ⟨⟨_, .inl rfl, hu, hpos⟩, ⟨_, .inr (by simp [JobId.toString]), hu, hpos⟩⟩

theorem ofString?_reads_references :
    (∀ (s : String) (id : JobId), ofString? s = .ok id ↔ Names s id.val.toNat) ∧
    (∀ (s : String) (e : RefError), ofString? s = .error e ↔ e = ⟨s⟩ ∧ ∀ n, ¬ Names s n) ∧
    ∀ n : UInt32, n ≠ 0 →
      ofString? (JobId.toString ⟨n⟩) = .ok ⟨n⟩ ∧ ofString? ("%" ++ JobId.toString ⟨n⟩) = .ok ⟨n⟩ :=
  ⟨fun _ _ => ofString?_eq_ok_iff, fun _ _ => ofString?_eq_error_iff, fun _ h =>
    ⟨ofString?_eq_ok_iff.mpr (names_toString h).1, ofString?_eq_ok_iff.mpr (names_toString h).2⟩⟩

example : ofString? "%%1" = .error ⟨"%%1"⟩ ∧ ofString? "%+0" = .error ⟨"%+0"⟩ ∧
    ofString? "4294967296" = .error ⟨"4294967296"⟩ ∧ ofString? "%+007" = .ok ⟨7⟩ := by
  decide

/-- The largest job number is read back from its `%` form. -/
theorem largest_reference_read_back :
    (4294967295 : UInt32) ≠ 0 ∧ ofString? ("%" ++ JobId.toString ⟨4294967295⟩) = .ok ⟨4294967295⟩ :=
  ⟨by decide, (ofString?_reads_references.2.2 4294967295 (by decide)).2⟩

end JobControl.JobId
