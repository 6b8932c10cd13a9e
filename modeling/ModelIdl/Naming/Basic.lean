import ModelIdl.Naming.SnakeCase

/-!
# ModelIdl.Naming.Basic

Naming strategies: from logical names to the names that the database uses. A strategy is its three
functions, for tables, sequences and columns; unless it says otherwise, it names columns like tables.

There are three standard strategies, known by name, and a wrapper that adds text in front of tables and
sequences and behind sequences, and leaves columns alone.
-/

namespace ModelIdl

/-- A naming strategy. -/
structure Naming where
  table : String → String
  sequence : String → String
  column : String → String := table

namespace Naming

/-- One rule for all names. -/
def uniform (rule : String → String) : Naming where
  table := rule
  sequence := rule

/-- Names as they are. -/
def identity : Naming := uniform id

/-- Names in `snake_case`. -/
def snake : Naming := uniform toSnakeCase

/-- Names in `UPPER_SNAKE_CASE`. -/
def upperSnake : Naming := uniform toUpperSnakeCase

/-- Wraps a strategy: tables and sequences get a text in front, sequences also one behind. -/
def affixed (front behind : String) (inner : Naming) : Naming where
  table name := front ++ inner.table name
  sequence name := front ++ inner.sequence name ++ behind
  column := inner.column

end Naming

/-- The standard strategies. -/
inductive NamingKind where
  | identity
  | snake
  | upperSnake
deriving DecidableEq, Repr

namespace NamingKind

/-- The name by which a strategy is chosen. -/
def text : NamingKind → String
  | identity => "identity"
  | snake => "snake"
  | upperSnake => "upper-snake"

/-- Every standard strategy. -/
def all : List NamingKind :=
  [identity, snake, upperSnake]

/-- The strategy with a name. -/
def ofText? (name : String) : Option NamingKind :=
  all.find? fun k => k.text == name

/-- The strategy itself. -/
def naming : NamingKind → Naming
  | identity => .identity
  | snake => .snake
  | upperSnake => .upperSnake

/-- What to say of a name that no strategy has. -/
def unknownMessage (name : String) : String :=
  "unknown naming strategy `" ++ name ++ "` (expected identity, snake or upper-snake)"

/-- A name is a strategy's exactly if it is the text of that strategy. -/
theorem ofText?_eq_some_iff {name : String} {k : NamingKind} :
    ofText? name = some k ↔ k.text = name := by
  constructor
  · intro h
    simpa using List.find?_some h
  · rintro rfl
    cases k <;> rfl

end NamingKind

instance : Inhabited NamingKind := ⟨.identity⟩

end ModelIdl
