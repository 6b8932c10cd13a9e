/-!
# ModelIdl.Source.Position

Places between the characters of a source text. A position has the number of bytes before it in UTF-8
and, for people, a line and a column: lines end at line feeds only, and columns count characters.
-/

namespace ModelIdl

/-- A place in a source text: bytes before it, and its line and column counted from 1. -/
structure Position where
  offset : Nat
  line : Nat
  column : Nat
deriving DecidableEq, Repr

namespace Position

/-- The place before the first character. -/
def origin : Position := ⟨0, 1, 1⟩

/-- The place behind a character that stands at a place. -/
def past (p : Position) (c : Char) : Position :=
  if c = '\n' then ⟨p.offset + c.utf8Size, p.line + 1, 1⟩
  else ⟨p.offset + c.utf8Size, p.line, p.column + 1⟩

/-- The place behind a stretch of text that begins at a place. -/
def after (p : Position) (text : List Char) : Position :=
  text.foldl past p

@[simp] theorem after_nil (p : Position) : p.after [] = p := rfl

@[simp] theorem after_cons (p : Position) (c : Char) (text : List Char) :
    p.after (c :: text) = (p.past c).after text := rfl

@[simp] theorem after_append (p : Position) (s t : List Char) :
    p.after (s ++ t) = (p.after s).after t := by
  simp [after]

end Position

end ModelIdl
