/-!
# ModelIdl.Text.CodePoints

Character classes as tables of code points. Design points:

* **Stepped ranges.** Scripts with paired letters alternate the cases, so a range has a step: with
  step 2 it holds every other code point.
* **Ascending tables.** A look-up stops at the first range that starts beyond the code point, so the
  common low code points are found at once.
-/

namespace ModelIdl.Text

/-- The code points `first`, `first + step`, … up to `last`. -/
structure CodeRange where
  first : Nat
  last : Nat
  step : Nat

/-- Is the code point one of the range? -/
def CodeRange.holds (r : CodeRange) (n : Nat) : Bool :=
  r.first ≤ n && n ≤ r.last && (n - r.first) % r.step == 0

/-- Does a table of ascending ranges hold the code point? -/
def covers : List CodeRange → Nat → Bool
  | [], _ => false
  | r :: rest, n => if n < r.first then false else r.holds n || covers rest n

/-- A code point that a table covers is in one of its ranges. -/
theorem exists_holds_of_covers {table : List CodeRange} {n : Nat} (h : covers table n = true) :
    ∃ r ∈ table, r.holds n = true := by
  induction table with
  | nil => simp [covers] at h
  | cons r rest ih =>
    unfold covers at h
    split at h
    · simp at h
    · rcases Bool.or_eq_true _ _ ▸ h with h | h
      · exact ⟨r, by simp, h⟩
      · obtain ⟨s, hs, hn⟩ := ih h
        exact ⟨s, by simp [hs], hn⟩

end ModelIdl.Text
