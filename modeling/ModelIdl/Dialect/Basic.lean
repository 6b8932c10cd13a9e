import ModelIdl.Dialect.Quoting

/-!
# ModelIdl.Dialect.Basic

SQL dialects: how identifiers are quoted, how long they may be, and how the next value of a sequence is
drawn. One dialect has no sequences; there a table with a row for each sequence stands in, and drawing
a value counts its row up.
-/

namespace ModelIdl

/-- How a dialect draws the next value of a sequence. -/
inductive SequenceStyle where
  /-- The statement `NEXT VALUE FOR` and the sequence. -/
  | nextValueFor
  /-- The sequence and its pseudo-column `NEXTVAL`. -/
  | nextval
  /-- No sequences; a row of the sequence table is counted up. -/
  | countedRow
deriving DecidableEq, Repr

/-- An SQL dialect. -/
structure Dialect where
  name : String
  quotes : Quotes := .standard
  /-- The most characters that an identifier may have, if there is a limit. -/
  maxLength : Option Nat := none
  sequences : SequenceStyle := .nextValueFor
deriving DecidableEq

namespace Dialect

/-! ### The built-in dialects -/

/-- Standard SQL. -/
def generic : Dialect where
  name := "default"

def sqlite : Dialect where
  name := "sqlite"
  sequences := .countedRow

def sqlServer : Dialect where
  name := "sqlserver"
  quotes := .brackets
  maxLength := some 128

def gbase : Dialect where
  name := "gbase"
  maxLength := some 128
  sequences := .nextval

/-- Every built-in dialect. -/
def builtIn : List Dialect :=
  [generic, sqlite, sqlServer, gbase]

/-! ### Identifiers and strings -/

/-- A name as an identifier of the dialect. -/
def quoteIdentifier (d : Dialect) (name : String) : String :=
  String.ofList (d.quotes.quote name.toList)

/-- Is a name short enough for an identifier? Characters are counted, not bytes. -/
def fits (d : Dialect) (name : String) : Bool :=
  match d.maxLength with
  | some most => name.length ≤ most
  | none => true

/-- Has the dialect sequences of its own? -/
def hasSequences (d : Dialect) : Bool :=
  d.sequences != .countedRow

/-- A text as an SQL string. -/
def quoteString (text : String) : String :=
  String.ofList (Quotes.string.quote text.toList)

/-! ### Statements about sequences -/

/-- The table that stands in for sequences. -/
def sequenceTable : String := "oxide_sequences"

/-- The statement that draws the next value of a sequence. -/
def nextValueSql (d : Dialect) (sequence : String) : String :=
  match d.sequences with
  | .nextValueFor => "NEXT VALUE FOR " ++ d.quoteIdentifier sequence
  | .nextval => d.quoteIdentifier sequence ++ ".NEXTVAL"
  | .countedRow =>
    "UPDATE " ++ d.quoteIdentifier sequenceTable ++
      " SET next_val = next_val + 1 WHERE name = " ++ quoteString sequence ++ " RETURNING next_val"

/-- The statement that creates the table that stands in for sequences. -/
def createSequenceTableSql (d : Dialect) : String :=
  "CREATE TABLE IF NOT EXISTS " ++ d.quoteIdentifier sequenceTable ++
    " (name TEXT PRIMARY KEY NOT NULL, next_val INTEGER NOT NULL)"

/-- The statement that adds a row for a sequence, unless it has one. -/
def registerSequenceSql (d : Dialect) (sequence : String) : String :=
  "INSERT OR IGNORE INTO " ++ d.quoteIdentifier sequenceTable ++
    " (name, next_val) VALUES (" ++ quoteString sequence ++ ", 0)"

end Dialect

end ModelIdl
