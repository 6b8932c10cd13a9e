import Mathlib
import ModelIdl.Naming.SnakeCase
import ModelIdl.Proofs.Token.Spelling

/-!
# ModelIdl.Proofs.Naming.Letters

What the case tables and the separators of names have to do with each other. No capital, small letter or
digit is a separator, and no capital has a separator in its small form. So a separator is neither mistaken
for a letter of a word, nor made out of one, and an underscore in a snake case name is always one that was
put there.

On ASCII the tables say what `Char` says. That is checked character by character, once for each table.
-/

namespace ModelIdl

/-! ### Shifts -/

/-- A table of shifts leaves a code point alone, or one of its shifts moves it. -/
theorem Text.shiftCode_cases (table : List CaseShift) (n : Nat) :
    shiftCode table n = n ∨
      ∃ s ∈ table, s.range.holds n = true ∧ shiftCode table n = (n + s.offset).toNat := by
  induction table with
  | nil => exact .inl rfl
  | cons s rest ih =>
    unfold shiftCode
    split
    · exact .inl rfl
    · split
      case isTrue hholds => exact .inr ⟨s, by simp, hholds, rfl⟩
      case isFalse =>
        obtain h | ⟨t, ht, hholds, h⟩ := ih
        · exact .inl h
        · exact .inr ⟨t, by simp [ht], hholds, h⟩

namespace SnakeCase

/-! ### Separators -/

/-- The code points of the separators. -/
def separatorRanges : List Text.CodeRange :=
  ⟨'-'.toNat, '-'.toNat, 1⟩ :: ⟨'_'.toNat, '_'.toNat, 1⟩ :: Text.blankRanges

/-- A character outside of all these ranges is no separator. -/
theorem isSeparator_eq_false_of_outside {c : Char}
    (h : ∀ r ∈ separatorRanges, c.toNat < r.first ∨ r.last < c.toNat) : isSeparator c = false := by
  have hnot : ∀ d : Char, ⟨d.toNat, d.toNat, 1⟩ ∈ separatorRanges → c ≠ d := by
    rintro _ hd rfl
    rcases h _ hd with h | h <;> exact Nat.lt_irrefl _ h
  have hblank : Text.isBlank c = false := by
    rw [← Bool.not_eq_true]
    intro hblank
    obtain ⟨r, hr, hholds⟩ := Text.exists_holds_of_covers hblank
    simp only [Text.CodeRange.holds, Bool.and_eq_true, decide_eq_true_eq] at hholds
    have := h r (by simp [separatorRanges, hr])
    omega
  simp [isSeparator, hblank, hnot '_' (by simp [separatorRanges]), hnot '-' (by simp [separatorRanges])]

/-- The characters of a table are no separators if no range of the table meets one of separators. -/
theorem isSeparator_eq_false_of_covers {table : List Text.CodeRange} {c : Char}
    (h : ∀ t ∈ table, ∀ r ∈ separatorRanges, t.last < r.first ∨ r.last < t.first)
    (hc : Text.covers table c.toNat = true) : isSeparator c = false := by
  obtain ⟨t, ht, hholds⟩ := Text.exists_holds_of_covers hc
  simp only [Text.CodeRange.holds, Bool.and_eq_true, decide_eq_true_eq] at hholds
  refine isSeparator_eq_false_of_outside fun r hr => ?_
  have := h t ht r hr
  omega

set_option maxRecDepth 8000 in
theorem isSeparator_of_isUppercase {c : Char} (h : Text.isUppercase c = true) : isSeparator c = false :=
  isSeparator_eq_false_of_covers (by decide) h

set_option maxRecDepth 8000 in
theorem isSeparator_of_isLowercase {c : Char} (h : Text.isLowercase c = true) : isSeparator c = false :=
  isSeparator_eq_false_of_covers (by decide) h

theorem isSeparator_of_isDigit {c : Char} (h : c.isDigit = true) : isSeparator c = false := by
  obtain ⟨hlow, hhigh⟩ := toNat_of_isDigit h
  have hranges : ∀ r ∈ separatorRanges, 57 < r.first ∨ r.last < 48 := by decide
  refine isSeparator_eq_false_of_outside fun r hr => ?_
  have := hranges r hr
  omega

/-- No word begins behind a separator that is not counted as one already. -/
theorem beginsWord_of_isSeparator {before : Char} (h : isSeparator before = true) (c : Char)
    (behind : Option Char) : beginsWord before c behind = false := by
  have hnot : ∀ {p : Char → Bool}, (∀ {d}, p d = true → isSeparator d = false) → p before = false := by
    intro p hp
    rw [← Bool.not_eq_true]
    intro hbefore
    rw [hp hbefore] at h
    cases h
  simp [beginsWord, hnot isSeparator_of_isUppercase, hnot isSeparator_of_isLowercase,
    hnot isSeparator_of_isDigit]

/-! ### Small forms -/

set_option maxRecDepth 8000 in
/-- No separator comes out of a capital. -/
theorem isSeparator_of_mem_lowered {c x : Char} (hc : Text.isUppercase c = true)
    (hx : x ∈ Text.lowered c) : isSeparator x = false := by
  unfold Text.lowered at hx
  split at hx
  · simp only [List.mem_cons, List.not_mem_nil, or_false] at hx
    rcases hx with rfl | rfl <;> decide
  · obtain rfl := List.mem_singleton.1 hx
    obtain hsame | ⟨s, hs, hholds, hshift⟩ := Text.shiftCode_cases Text.lowercaseShifts c.toNat
    · rw [hsame, Char.ofNat_toNat]
      exact isSeparator_of_isUppercase hc
    · have hapart : ∀ s ∈ Text.lowercaseShifts, ∀ r ∈ separatorRanges,
          s.range.last + s.offset < r.first ∨ (r.last : Int) < s.range.first + s.offset := by
        decide
      simp only [Text.CodeRange.holds, Bool.and_eq_true, decide_eq_true_eq] at hholds
      refine isSeparator_eq_false_of_outside fun r hr => ?_
      have hrange := hapart s hs r hr
      have hpos : ∀ r ∈ separatorRanges, 0 < r.first := by decide
      have := hpos r hr
      rw [Char.toNat_ofNat, hshift]
      split <;> omega

theorem image_ne_nil (c : Char) : image c ≠ [] := by
  unfold image
  split
  · exact Text.lowered_ne_nil c
  · simp

/-- What a letter becomes holds no separator. -/
theorem isSeparator_of_mem_image {c x : Char} (hc : isSeparator c = false) (hx : x ∈ image c) :
    isSeparator x = false := by
  unfold image at hx
  split at hx
  case isTrue hupper => exact isSeparator_of_mem_lowered hupper hx
  case isFalse =>
    obtain rfl := List.mem_singleton.1 hx
    exact hc

/-! ### ASCII -/

/-- All characters of a text are ASCII. -/
def Ascii (text : List Char) : Prop :=
  ∀ c ∈ text, c.toNat < 128

/-- What holds of the first 128 characters holds of ASCII. -/
theorem of_ascii {p : Char → Prop} (h : ∀ n < 128, p (Char.ofNat n)) {c : Char} (hc : c.toNat < 128) :
    p c := by
  rw [← Char.ofNat_toNat c]
  exact h c.toNat hc

theorem isUppercase_of_ascii {c : Char} (hc : c.toNat < 128) : Text.isUppercase c = c.isUpper :=
  of_ascii (p := fun c => Text.isUppercase c = c.isUpper) (by decide) hc

theorem isLowercase_of_ascii {c : Char} (hc : c.toNat < 128) : Text.isLowercase c = c.isLower :=
  of_ascii (p := fun c => Text.isLowercase c = c.isLower) (by decide) hc

theorem lowered_of_ascii {c : Char} (hc : c.toNat < 128) : Text.lowered c = [c.toLower] :=
  of_ascii (p := fun c => Text.lowered c = [c.toLower]) (by decide) hc

theorem raised_of_ascii {c : Char} (hc : c.toNat < 128) : Text.raised c = [c.toUpper] :=
  of_ascii (p := fun c => Text.raised c = [c.toUpper]) (by decide) hc

theorem isSeparator_toUpper {c : Char} (hc : c.toNat < 128) : isSeparator c.toUpper = isSeparator c :=
  of_ascii (p := fun c => isSeparator c.toUpper = isSeparator c) (by decide) hc

theorem isDigit_toUpper {c : Char} (hc : c.toNat < 128) : c.toUpper.isDigit = c.isDigit :=
  of_ascii (p := fun c => c.toUpper.isDigit = c.isDigit) (by decide) hc

theorem toNat_toUpper_lt {c : Char} (hc : c.toNat < 128) : c.toUpper.toNat < 128 :=
  of_ascii (p := fun c => c.toUpper.toNat < 128) (by decide) hc

theorem toNat_toLower_lt {c : Char} (hc : c.toNat < 128) : c.toLower.toNat < 128 :=
  of_ascii (p := fun c => c.toLower.toNat < 128) (by decide) hc

theorem image_of_ascii {c : Char} (hc : c.toNat < 128) : image c = [c.toLower] := by
  rw [image, lowered_of_ascii hc, isUppercase_of_ascii hc]
  split
  · rfl
  · rw [Char.toLower_eq_of_not_isUpper ‹_›]

end SnakeCase

end ModelIdl
