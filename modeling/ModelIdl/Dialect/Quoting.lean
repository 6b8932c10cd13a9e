/-!
# ModelIdl.Dialect.Quoting

Names and strings inside SQL statements. A quoted item stands between two marks, and each closing mark
inside it is written twice, so no item can end early.
-/

namespace ModelIdl

/-- The marks around a quoted item; they may be the same. -/
structure Quotes where
  opening : Char
  closing : Char
deriving DecidableEq, Repr

namespace Quotes

/-- A text with each closing mark written twice. -/
def doubled (q : Quotes) : List Char → List Char
  | [] => []
  | c :: rest => if c = q.closing then c :: c :: q.doubled rest else c :: q.doubled rest

/-- A text as a quoted item. -/
def quote (q : Quotes) (text : List Char) : List Char :=
  q.opening :: q.doubled text ++ [q.closing]

/-- Reads a quoted item behind its opening mark: two closing marks are one inside, and a single one
ends the item. Gives the text inside and what is behind the item. -/
def readInside (q : Quotes) : List Char → Option (List Char × List Char)
  | [] => none
  | c :: rest =>
    if c = q.closing then
      match rest with
      | d :: more =>
        if d = q.closing then (q.readInside more).map fun (inside, behind) => (c :: inside, behind)
        else some ([], rest)
      | [] => some ([], [])
    else (q.readInside rest).map fun (inside, behind) => (c :: inside, behind)

/-- Reads a quoted item at the front of a text. -/
def read (q : Quotes) : List Char → Option (List Char × List Char)
  | [] => none
  | c :: rest => if c = q.opening then q.readInside rest else none

@[simp] theorem doubled_nil (q : Quotes) : q.doubled [] = [] := rfl

@[simp] theorem doubled_append (q : Quotes) (s t : List Char) :
    q.doubled (s ++ t) = q.doubled s ++ q.doubled t := by
  induction s with
  | nil => rfl
  | cons c rest ih =>
    simp only [List.cons_append, doubled]
    split <;> simp [ih]

end Quotes

/-- The marks around SQL strings. -/
def Quotes.string : Quotes := ⟨'\x27', '\x27'⟩

/-- The marks around identifiers in standard SQL. -/
def Quotes.standard : Quotes := ⟨'"', '"'⟩

/-- The marks around identifiers in brackets. -/
def Quotes.brackets : Quotes := ⟨'[', ']'⟩

end ModelIdl
