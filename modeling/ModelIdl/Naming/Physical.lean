import ModelIdl.Naming.Basic
import ModelIdl.Schema.Declaration

/-!
# ModelIdl.Naming.Physical

The physical names of a declaration: what its table, its sequence and its columns are called. Where an
annotation gives a name, that is used as it stands; otherwise a strategy makes one, for tables and
sequences from the logical name and for columns from the field's name. An embeddable has columns only.
-/

namespace ModelIdl

/-- The physical names of a declaration. -/
structure PhysicalNames where
  logicalName : String
  table : Option String
  sequence : Option String
  /-- Each field's name with its column, in order. -/
  columns : List (String × String)
deriving DecidableEq

namespace PhysicalNames

/-- Every name that becomes an identifier, in the order in which they are checked. -/
def identifiers (n : PhysicalNames) : List String :=
  n.table.toList ++ n.sequence.toList ++ n.columns.map Prod.snd

end PhysicalNames

/-- The logical name of the sequence that belongs to a logical table name. -/
def logicalSequenceName (logicalName : String) : String :=
  logicalName ++ "_seq"

namespace Naming

variable {σ : Type}

/-- The table of a declaration. -/
def tableOf (n : Naming) (d : Declaration σ) : Option String :=
  if d.kind.hasTable then some (d.tableOverride?.getD (n.table d.logicalName)) else none

/-- The sequence of a declaration. -/
def sequenceOf (n : Naming) (d : Declaration σ) : Option String :=
  if d.kind.hasTable then
    some (d.sequenceOverride?.getD (n.sequence (logicalSequenceName d.logicalName)))
  else none

/-- The column of a field. -/
def columnOf (n : Naming) (d : Field σ) : String :=
  d.columnOverride?.getD (n.column d.name)

/-- The physical names of a declaration. -/
def physicalNames (n : Naming) (d : Declaration σ) : PhysicalNames where
  logicalName := d.logicalName
  table := n.tableOf d
  sequence := n.sequenceOf d
  columns := d.fields.map fun f => (f.name, n.columnOf f)

end Naming

end ModelIdl
