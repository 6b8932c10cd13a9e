import Mathlib
import ModelIdl.Proofs.Token.Streams

/-!
# ModelIdl.Proofs.Token.Integers

Integers as they are written and as they are read. What a sign and digits write is said place by place
(`placeValue`), apart from how it is read, and it has no bound; a token has 64 bits (`Fits64`). So either a
token has the very value that is written, or there is none (`Cursor.integer_reads_exactly`).
-/

namespace ModelIdl

namespace Numeral

/-! ### What is written -/

/-- The number that digits write: each of them counts for the power of ten at its place. -/
def placeValue : List Char → Nat
  | [] => 0
  | d :: ds => (d.toNat - '0'.toNat) * 10 ^ ds.length + placeValue ds

/-- The text of an integer. -/
def integerText (negative : Bool) (digits : List Char) : List Char :=
  if negative then '-' :: digits else digits

/-- The integer that a text with a sign and digits writes. -/
def integerValue (negative : Bool) (digits : List Char) : Int :=
  if negative then -placeValue digits else placeValue digits

/-- The text starts neither with a digit nor with a point and a digit. -/
def NoDigitsAhead (text : List Char) : Prop :=
  (∀ c ∈ text.head?, c.isDigit = false) ∧ ∀ d rest, text = '.' :: d :: rest → d.isDigit = false

/-- Does an integer have a representation of 64 bits? -/
def Fits64 (value : Int) : Prop :=
  -2 ^ 63 ≤ value ∧ value ≤ 2 ^ 63 - 1

/-- To read digits one by one is to count each at its place. -/
theorem ofDigitChars_eq_placeValue (digits : List Char) :
    Nat.ofDigitChars 10 digits 0 = placeValue digits := by
  induction digits with
  | nil => rfl
  | cons d ds ih =>
    rw [Nat.ofDigitChars_cons, Nat.ofDigitChars_eq_ofDigitChars_zero, ih, placeValue]
    ring

theorem wholeValue_eq_integerValue (negative : Bool) (digits : List Char) :
    wholeValue ⟨negative, digits, none⟩ = integerValue negative digits := by
  simp only [wholeValue, integerValue, ofDigitChars_eq_placeValue]

theorem text_eq_integerText (negative : Bool) (digits : List Char) :
    text ⟨negative, digits, none⟩ = integerText negative digits := by
  cases negative <;> simp [text, integerText]

/-! ### 64 bits -/

theorem fits64_iff {value : Int} :
    Fits64 value ↔ Int64.minValue.toInt ≤ value ∧ value ≤ Int64.maxValue.toInt :=
  .rfl

/-- An integer that has 64 bits keeps its value. -/
theorem int64?_of_fits64 {value : Int} (h : Fits64 value) :
    ∃ v : Int64, v.toInt = value ∧ int64? value = some v :=
  ⟨Int64.ofIntLE value h.1 h.2, Int64.toInt_ofIntLE, dif_pos (fits64_iff.1 h)⟩

theorem int64?_of_not_fits64 {value : Int} (h : ¬ Fits64 value) : int64? value = none :=
  dif_neg fun hle => h (fits64_iff.2 hle)

theorem fits64_toInt (v : Int64) : Fits64 v.toInt :=
  ⟨v.minValue_le_toInt, v.toInt_le⟩

/-! ### The text of a 64-bit integer -/

/-- The text of an integer is written with digits of its magnitude. -/
theorem exists_integerText_eq_toString (value : Int) :
    ∃ negative digits, digits ≠ [] ∧ (∀ d ∈ digits, d.isDigit = true) ∧
      (toString value).toList = integerText negative digits ∧ integerValue negative digits = value := by
  have hdigits (n : Nat) : Nat.toDigits 10 n ≠ [] ∧ (∀ d ∈ Nat.toDigits 10 n, d.isDigit = true) ∧
      placeValue (Nat.toDigits 10 n) = n := by
    rw [← ofDigitChars_eq_placeValue]
    exact ⟨Nat.toDigits_ne_nil, fun d hd => Nat.isDigit_of_mem_toDigits (by decide) (by decide) hd,
      Nat.ofDigitChars_ten_toDigits⟩
  rw [Int.toString_eq_repr, Int.repr_eq_if]
  split
  · rename_i hnonneg
    obtain ⟨hne, hall, hvalue⟩ := hdigits value.toNat
    refine ⟨false, _, hne, hall, Nat.toList_repr, ?_⟩
    simp [integerValue, hvalue, hnonneg]
  · rename_i hneg
    obtain ⟨hne, hall, hvalue⟩ := hdigits (-value).toNat
    refine ⟨true, _, hne, hall, by simp [integerText], ?_⟩
    simp only [integerValue, hvalue, if_true]
    omega

/-! ### Reading -/

/-- Digits behind a sign or behind none are one lexeme, with a token if it fits. -/
theorem token_of_integerText (negative : Bool) {digits more : List Char} (hne : digits ≠ [])
    (hdigits : ∀ d ∈ digits, d.isDigit = true) (hmore : NoDigitsAhead more) :
    Scan.token (integerText negative digits ++ more) =
      ⟨(int64? (integerValue negative digits)).elim (.error .invalidNumber) fun v => .ok (.integer v),
        integerText negative digits, more⟩ := by
  have hform : WellFormed ⟨negative, digits, none⟩ := ⟨hne, hdigits, by simp, by simp⟩
  have hends : EndsAt ⟨negative, digits, none⟩ more := ⟨hmore.1, fun _ => hmore.2⟩
  have hscan := token_of_wellFormed hform hends
  rw [text_eq_integerText] at hscan
  rw [hscan, token?, wholeValue_eq_integerValue]
  cases int64? (integerValue negative digits) <;> rfl

/-- No gap starts with a digit or a sign. -/
theorem split_of_integerText (negative : Bool) {digits : List Char} (hne : digits ≠ [])
    (hdigits : ∀ d ∈ digits, d.isDigit = true) (more : List Char) :
    Gap.split (integerText negative digits ++ more) = ([], integerText negative digits ++ more) := by
  obtain ⟨d, ds, rfl⟩ := List.exists_cons_of_ne_nil hne
  have hd := hdigits d (.head _)
  cases negative with
  | true => exact split_of_first (by decide) (by decide) _
  | false => exact split_of_first (isBlank_eq_false_of_isDigit hd) (ne_of_holds hd (by decide)) _

end Numeral

/-- A step at an integer takes it, whether it fits or not. -/
theorem Cursor.step_of_integerText (negative : Bool) {digits more : List Char} (hne : digits ≠ [])
    (hdigits : ∀ d ∈ digits, d.isDigit = true) (hmore : Numeral.NoDigitsAhead more) (p : Position) :
    (⟨p, Numeral.integerText negative digits ++ more⟩ : Cursor).lexeme =
        ⟨(Numeral.int64? (Numeral.integerValue negative digits)).elim (.error .invalidNumber)
            fun v => .ok (.integer v), p.to (p.after (Numeral.integerText negative digits))⟩ ∧
      (⟨p, Numeral.integerText negative digits ++ more⟩ : Cursor).next =
        ⟨p.after (Numeral.integerText negative digits), more⟩ :=
  step_of_scan [] (Numeral.split_of_integerText negative hne hdigits more)
    (Numeral.token_of_integerText negative hne hdigits hmore) p

/-- What a sign and digits write is read as exactly that if it has 64 bits, and is refused with all its
digits and nothing else if not; either way reading goes on behind the digits. So the text of each 64-bit
integer is read back. -/
theorem Cursor.integer_reads_exactly :
    (∀ (negative : Bool) (digits more : List Char) (p : Position),
      digits ≠ [] → (∀ d ∈ digits, d.isDigit = true) → Numeral.NoDigitsAhead more →
      (⟨p, Numeral.integerText negative digits ++ more⟩ : Cursor).lexeme.place =
          p.to (p.after (Numeral.integerText negative digits)) ∧
        (⟨p, Numeral.integerText negative digits ++ more⟩ : Cursor).next =
          ⟨p.after (Numeral.integerText negative digits), more⟩ ∧
        (Numeral.Fits64 (Numeral.integerValue negative digits) → ∃ v : Int64,
          v.toInt = Numeral.integerValue negative digits ∧
          (⟨p, Numeral.integerText negative digits ++ more⟩ : Cursor).lexeme.value = .ok (.integer v)) ∧
        (¬ Numeral.Fits64 (Numeral.integerValue negative digits) →
          (⟨p, Numeral.integerText negative digits ++ more⟩ : Cursor).lexeme.value =
            .error .invalidNumber)) ∧
    ∀ (v : Int64) (more : List Char) (p : Position), Numeral.NoDigitsAhead more →
      (⟨p, (toString v.toInt).toList ++ more⟩ : Cursor).lexeme =
          ⟨.ok (.integer v), p.to (p.after (toString v.toInt).toList)⟩ ∧
        (⟨p, (toString v.toInt).toList ++ more⟩ : Cursor).next =
          ⟨p.after (toString v.toInt).toList, more⟩ := by
  refine ⟨fun negative digits more p hne hdigits hmore => ?_, fun v more p hmore => ?_⟩
  · obtain ⟨hlexeme, hnext⟩ := step_of_integerText negative hne hdigits hmore p
    rw [hlexeme]
    refine ⟨rfl, hnext, fun hfits => ?_, fun hfits => ?_⟩
    · obtain ⟨v, hvalue, hv⟩ := Numeral.int64?_of_fits64 hfits
      exact ⟨v, hvalue, by rw [hv, Option.elim_some]⟩
    · rw [Numeral.int64?_of_not_fits64 hfits, Option.elim_none]
  · obtain ⟨negative, digits, hne, hdigits, htext, hvalue⟩ :=
      Numeral.exists_integerText_eq_toString v.toInt
    obtain ⟨hlexeme, hnext⟩ := step_of_integerText negative hne hdigits hmore p
    obtain ⟨w, hw, hint⟩ := Numeral.int64?_of_fits64 (Numeral.fits64_toInt v)
    rw [hvalue, hint, Option.elim_some, Int64.toInt_inj.1 hw] at hlexeme
    rw [htext]
    exact ⟨hlexeme, hnext⟩

/-- The least integer of 64 bits can be written with zeros in front; without its sign it does not fit. Neither
goes on with a point that no digit follows. -/
theorem Cursor.integer_reads_exactly_at_bounds :
    (∃ v : Int64, v.toInt = -9223372036854775808 ∧
      (⟨.origin, '-' :: ("009223372036854775808".toList ++ ['.', 'x'])⟩ : Cursor).lexeme.value =
        .ok (.integer v)) ∧
    (⟨.origin, "9223372036854775808".toList ++ ['.', 'x']⟩ : Cursor).lexeme =
      ⟨.error .invalidNumber, ⟨0, 19, 1, 1⟩⟩ ∧
    (⟨.origin, "9223372036854775808".toList ++ ['.', 'x']⟩ : Cursor).next =
      ⟨⟨19, 1, 20⟩, ['.', 'x']⟩ := by
  have hmore : Numeral.NoDigitsAhead ['.', 'x'] := by
    refine ⟨by simp, ?_⟩
    rintro d rest ⟨⟩
    decide
  have hleast : Numeral.integerValue true "009223372036854775808".toList = -9223372036854775808 := by
    decide +kernel
  have habove : Numeral.integerValue false "9223372036854775808".toList = 9223372036854775808 := by
    decide +kernel
  obtain ⟨hreads, -⟩ := integer_reads_exactly
  obtain ⟨-, -, hfits, -⟩ := hreads true "009223372036854775808".toList ['.', 'x'] .origin
    (by decide) (by simp) hmore
  obtain ⟨hplace, hnext, -, hrefused⟩ := hreads false "9223372036854775808".toList ['.', 'x'] .origin
    (by decide) (by simp) hmore
  rw [hleast] at hfits
  rw [habove] at hrefused
  have hvalue := hrefused (by norm_num [Numeral.Fits64])
  exact ⟨hfits (by norm_num [Numeral.Fits64]), congrArg₂ Placed.mk hvalue hplace, hnext⟩

end ModelIdl
