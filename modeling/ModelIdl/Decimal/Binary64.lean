/-!
# ModelIdl.Decimal.Binary64

The numbers of the 64-bit binary format, as exact values. Design points:

* **Whole units.** Every finite number of the format is a whole multiple of `2 ^ -1074`, its least
  positive number, so a magnitude is a natural number of such units and equal numbers have equal
  representations. The two zeros stay apart by their sign.
* **Exact rounding.** A ratio is rounded once, to the nearest number of the format, and a tie goes to
  the neighbour with the even significand. What rounds to `2 ^ 1024` or beyond is infinite.
-/

namespace ModelIdl.Decimal

/-- A number of the 64-bit binary format. -/
inductive Binary64 where
  /-- The number `units / 2 ^ 1074`, or its negation. -/
  | finite (negative : Bool) (units : Nat)
  | infinite (negative : Bool)
deriving DecidableEq, Repr

namespace Binary64

/-- How many units make one. -/
def unitsPerOne : Nat := Nat.pow 2 1074

/-- The exponent of the gap, in units, between numbers of the format near `units`: a significand has
53 bits, and a number below `2 ^ 53` units needs no more than its own. -/
def gapExponent (units : Nat) : Nat :=
  units.log2 - 52

/-- The whole number nearest to `n / d`; of two equally near, the even one. -/
def nearest (n d : Nat) : Nat :=
  let q := n / d
  let r := n % d
  if 2 * r < d || (2 * r == d && q % 2 == 0) then q else q + 1

/-- The units of the number of the format nearest to `n / d` units, the exponent taken as unbounded. -/
def roundUnits (n d : Nat) : Nat :=
  let gap := Nat.pow 2 (gapExponent (n / d))
  nearest n (d * gap) * gap

/-- The number of the format nearest to `n / d`, or to its negation. -/
def ofRatio (negative : Bool) (n d : Nat) : Binary64 :=
  let units := roundUnits (n * unitsPerOne) d
  if units < Nat.pow 2 1024 * unitsPerOne then .finite negative units else .infinite negative

/-- The number nearest to a decimal numeral, given by its sign and the digits before and after the
point. -/
def ofDecimal (negative : Bool) (whole fraction : List Char) : Binary64 :=
  ofRatio negative (Nat.ofDigitChars 10 (whole ++ fraction) 0) (Nat.pow 10 fraction.length)

end Binary64

end ModelIdl.Decimal
