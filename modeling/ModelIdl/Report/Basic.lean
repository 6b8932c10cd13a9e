import ModelIdl.Report.Json
import ModelIdl.Session.Basic

/-!
# ModelIdl.Report.Basic

What is shown of a resolved declaration: its names, its statement and its columns, as a table for
people or as JSON for programs. What a declaration has not, an embeddable's table, is left out.
-/

namespace ModelIdl

/-- A field with its type and its quoted column. -/
structure ColumnReport where
  field : String
  type : String
  column : String
deriving DecidableEq

/-- A declaration with its quoted names. -/
structure DeclarationReport where
  kind : DeclarationKind
  name : String
  logicalName : String
  table : Option String
  nextValueSql : Option String
  columns : List ColumnReport
deriving DecidableEq

namespace DeclarationReport

variable {σ : Type}

/-- The report of a declaration and what it was resolved to. -/
def of (d : Declaration σ) (names : ResolvedNames) : DeclarationReport where
  kind := d.kind
  name := d.name
  logicalName := d.logicalName
  table := names.table
  nextValueSql := names.nextValueSql
  columns := List.zipWith (fun f (_, column) => ⟨f.name, f.type.text, column⟩) d.fields names.columns

/-! ### For people -/

/-- A text with blanks behind it, up to a width in characters. -/
def padded (width : Nat) (s : String) : String :=
  s ++ String.ofList (List.replicate (width - s.length) ' ')

/-- The line of a column. -/
def columnLine (c : ColumnReport) : String :=
  "  " ++ padded 20 c.field ++ " " ++ padded 24 c.type ++ " " ++ c.column ++ "\n"

/-- The report as lines. -/
def text (r : DeclarationReport) : String :=
  r.kind.text ++ " " ++ r.name ++
    (if r.logicalName = r.name then "" else " as \"" ++ r.logicalName ++ "\"") ++ "\n" ++
    (r.table.elim "" fun t => "  table:    " ++ t ++ "\n") ++
    (r.nextValueSql.elim "" fun s => "  sequence: " ++ s ++ "\n") ++
    String.join (r.columns.map columnLine)

/-! ### For programs -/

/-- A column as JSON. -/
def columnJson (c : ColumnReport) : Json :=
  .object [("field", .text c.field), ("type", .text c.type), ("column", .text c.column)]

/-- The report as JSON. -/
def json (r : DeclarationReport) : Json :=
  .object <|
    [("kind", .text r.kind.text), ("name", .text r.name), ("logical_name", .text r.logicalName)] ++
    r.table.toList.map (fun t => ("table", .text t)) ++
    r.nextValueSql.toList.map (fun s => ("next_value_sql", .text s)) ++
    [("columns", .list (r.columns.map columnJson))]

end DeclarationReport

namespace Session

variable {σ : Type}

/-- The report of a declaration, if it can be resolved. -/
def report (s : Session) (d : Declaration σ) : Except SessionError DeclarationReport :=
  (s.resolve d).map (DeclarationReport.of d)

end Session

end ModelIdl
