import ModelIdl.Token.Basic

/-!
# ModelIdl.Token.Numeral

Numerals: an optional minus sign, ASCII digits, and optionally a point with further digits. A point
that no digit follows is not part of the numeral. Without a point a numeral is a 64-bit integer, and
has no value if it does not fit; with one it is the nearest number of the 64-bit binary format.
-/

namespace ModelIdl

/-- A numeral as it is written. -/
structure Numeral where
  negative : Bool
  /-- The digits before the point. -/
  whole : List Char
  /-- The digits behind the point, if there is one. -/
  fraction : Option (List Char)
deriving DecidableEq, Repr

namespace Numeral

/-- The digits that a text begins with. -/
def leadingDigits (text : List Char) : List Char :=
  text.takeWhile Char.isDigit

/-- The text behind the digits that it begins with. -/
def behindDigits (text : List Char) : List Char :=
  text.dropWhile Char.isDigit

/-- Reads the digits of a numeral whose sign is known, as far as they go. -/
def readDigits (negative : Bool) (text : List Char) : Numeral × List Char :=
  match behindDigits text with
  | '.' :: d :: rest =>
    if d.isDigit then
      (⟨negative, leadingDigits text, some (d :: leadingDigits rest)⟩, behindDigits rest)
    else (⟨negative, leadingDigits text, none⟩, '.' :: d :: rest)
  | rest => (⟨negative, leadingDigits text, none⟩, rest)

/-- Reads the longest numeral at the front of a text. -/
def read : List Char → Numeral × List Char
  | '-' :: text => readDigits true text
  | text => readDigits false text

/-- The numeral's own text. -/
def text (n : Numeral) : List Char :=
  (if n.negative then ['-'] else []) ++ n.whole ++
    match n.fraction with
    | some digits => '.' :: digits
    | none => []

/-- The integer of 64 bits with a value, if there is one. -/
def int64? (value : Int) : Option Int64 :=
  if h : Int64.minValue.toInt ≤ value ∧ value ≤ Int64.maxValue.toInt then
    some (Int64.ofIntLE value h.1 h.2)
  else none

/-- The value of a numeral's sign and whole digits. -/
def wholeValue (n : Numeral) : Int :=
  let magnitude : Int := Nat.ofDigitChars 10 n.whole 0
  if n.negative then -magnitude else magnitude

/-- The token that a numeral stands for; none for an integer that does not fit. -/
def token? (n : Numeral) : Option Token :=
  match n.fraction with
  | some digits => some (.number (.ofDecimal n.negative n.whole digits))
  | none => (int64? n.wholeValue).map .integer

theorem leadingDigits_append_behindDigits (text : List Char) :
    leadingDigits text ++ behindDigits text = text :=
  List.takeWhile_append_dropWhile

/-- Reading the digits loses nothing. -/
theorem text_append_of_readDigits (negative : Bool) (cs : List Char) :
    (readDigits negative cs).1.text ++ (readDigits negative cs).2 =
      (if negative then ['-'] else []) ++ cs := by
  have h := leadingDigits_append_behindDigits cs
  unfold readDigits
  split
  · rename_i d rest heq
    rw [heq] at h
    split
    · simp [text, leadingDigits_append_behindDigits, h]
    · simp [text, h]
  · simp [text, h]

/-- The numeral and what is behind it make up the text. -/
theorem text_append_of_read (cs : List Char) : (read cs).1.text ++ (read cs).2 = cs := by
  unfold read
  split <;> simp [text_append_of_readDigits]

end Numeral

end ModelIdl
