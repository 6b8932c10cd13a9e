import ModelIdl.Decimal.Binary64

/-!
# ModelIdl.Decimal.Shortest

The decimal text of a number: the fewest digits that read back to it, and among those the digits
nearest to it. Design points:

* **Grids.** The multiples of `10 ^ place` are a grid. The text uses the coarsest grid with a point in
  the interval of values that read back to the number; since the grids are nested, no text with fewer
  digits reads back.
* **Neighbours.** If a grid has a point in the interval, one of the two points beside the number is in
  it. Of two such points the nearer is taken, of two equally near the greater.
* **Plain notation.** The text has no exponent, and no point when the number is whole.
-/

namespace ModelIdl.Decimal

namespace Binary64

/-! ### The interval that reads back -/

/-- Twice the distance, in units, from a number down to the end of the interval: the gap below it,
which is the smaller one just above a power of two. -/
def gapBelow (units : Nat) : Nat :=
  let e := gapExponent units
  if e ≠ 0 ∧ units = Nat.pow 2 (52 + e) then Nat.pow 2 (e - 1) else Nat.pow 2 e

/-- Twice the distance, in units, from a number up to the end of the interval. -/
def gapAbove (units : Nat) : Nat :=
  Nat.pow 2 (gapExponent units)

/-- Do the ends of the interval read back too? They do if the significand is even. -/
def endsReadBack (units : Nat) : Bool :=
  units / Nat.pow 2 (gapExponent units) % 2 == 0

/-- Does the value `n / d` units read back to the number of that many units? -/
def readsBack (units n d : Nat) : Bool :=
  let low := (2 * units - gapBelow units) * d
  let high := (2 * units + gapAbove units) * d
  if endsReadBack units then low ≤ 2 * n && 2 * n ≤ high else low < 2 * n && 2 * n < high

/-! ### Grids -/

/-- The size of the grid step `10 ^ place` in units, as a ratio. -/
def gridStep (place : Int) : Nat × Nat :=
  (unitsPerOne * Nat.pow 10 place.toNat, Nat.pow 10 (-place).toNat)

/-- The grid point beside the number that reads back, as a count of steps. -/
def pointOnGrid? (units : Nat) (place : Int) : Option Nat :=
  let (n, d) := gridStep place
  let low := units * d / n
  let nearLow := 2 * (units * d % n) < n
  match readsBack units (low * n) d, readsBack units ((low + 1) * n) d with
  | true, true => some (if nearLow then low else low + 1)
  | true, false => some low
  | false, true => some (low + 1)
  | false, false => none

/-- The places of the grids that can be needed, the coarsest first: no number reaches `10 ^ 309`, and
every number is a whole multiple of `10 ^ -1074`. -/
def places : List Int :=
  (List.range (309 + 1074)).map fun (i : Nat) => 308 - (i : Int)

/-- The fewest digits that read back, with the place of the last one. -/
def shortest? (units : Nat) : Option (Nat × Int) :=
  places.findSome? fun place => (pointOnGrid? units place).map fun count => (count, place)

/-! ### Text -/

/-- The text of `count * 10 ^ place` in plain notation. -/
def plainText (count : Nat) (place : Int) : String :=
  if 0 ≤ place then Nat.repr (count * Nat.pow 10 place.toNat)
  else
    let width := (-place).toNat
    let fraction := Nat.toDigits 10 (count % Nat.pow 10 width)
    Nat.repr (count / Nat.pow 10 width) ++ "." ++
      String.ofList (List.replicate (width - fraction.length) '0' ++ fraction)

/-- The text of a magnitude. -/
def magnitudeText (units : Nat) : String :=
  match shortest? units with
  | some (count, place) => plainText count place
  | none => "0"

/-- The text of a number: a minus sign if it is negative, zero included, and the shortest digits. -/
def text : Binary64 → String
  | .finite negative units => (if negative then "-" else "") ++ magnitudeText units
  | .infinite negative => if negative then "-inf" else "inf"

end Binary64

end ModelIdl.Decimal
