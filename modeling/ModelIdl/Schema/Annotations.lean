import ModelIdl.Text.Shown
import ModelIdl.Token.Basic

/-!
# ModelIdl.Schema.Annotations

Annotations, `@name` with literal arguments, on declarations and fields. Some names mean something to
the physical layout (`@table`, `@sequence`, `@column`); the others are carried along. Where a name is
given several times, the last annotation counts.
-/

namespace ModelIdl

/-! ### Literals -/

/-- An argument of an annotation. -/
inductive Literal where
  | integer (value : Int64)
  | number (value : Decimal.Binary64)
  | string (text : String)
  | boolean (value : Bool)
  | null
  /-- A bare name, as in `@on_delete(cascade)`. -/
  | name (text : String)
deriving DecidableEq

namespace Literal

/-- A literal as it is listed. Strings are quoted and escaped. -/
def text : Literal → String
  | integer value => toString value.toInt
  | number value => value.text
  | string s => Text.shownString s
  | boolean value => if value then "true" else "false"
  | null => "null"
  | name s => s

/-- The text of a string or a bare name. -/
def asText? : Literal → Option String
  | string s | name s => some s
  | _ => none

/-- The value of an integer. -/
def asInteger? : Literal → Option Int64
  | integer value => some value
  | _ => none

end Literal

/-! ### Annotations -/

/-- An annotation, placed at its `@`. -/
structure Annot (σ : Type) where
  name : String
  arguments : List Literal
  place : σ
deriving DecidableEq

namespace Annot

variable {σ τ : Type}

/-- The same annotation at another kind of place. -/
def map (f : σ → τ) (a : Annot σ) : Annot τ :=
  ⟨a.name, a.arguments, f a.place⟩

/-- The first argument, if it is a string or a bare name. -/
def firstText? (a : Annot σ) : Option String :=
  a.arguments.head?.bind Literal.asText?

/-- An annotation as it is listed; without arguments it has no parentheses. -/
def text (a : Annot σ) : String :=
  if a.arguments.isEmpty then "@" ++ a.name
  else "@" ++ a.name ++ "(" ++ ", ".intercalate (a.arguments.map Literal.text) ++ ")"

/-- The last annotation with a name. -/
def find? (name : String) (annotations : List (Annot σ)) : Option (Annot σ) :=
  annotations.reverse.find? fun a => a.name == name

/-- The text that the last annotation with a name gives, if its first argument is a text. An earlier
annotation of that name does not stand in for it. -/
def override? (name : String) (annotations : List (Annot σ)) : Option String :=
  (find? name annotations).bind firstText?

@[simp] theorem find?_nil (name : String) : find? name ([] : List (Annot σ)) = none := rfl

/-- A later annotation comes first in the search. -/
theorem find?_append (name : String) (front back : List (Annot σ)) :
    find? name (front ++ back) = (find? name back).or (find? name front) := by
  simp [find?]

end Annot

end ModelIdl
