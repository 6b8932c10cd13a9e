import ModelIdl.Schema.Annotations
import ModelIdl.Schema.TypeRef

/-!
# ModelIdl.Schema.Declaration

Declarations and their fields. A *model* is stored in a table of its own and draws its keys from a
sequence; an *embeddable* is stored inside the tables of its owners and has neither.

A declaration has two names: the *structural* name that follows its keyword, and the *logical* name
that the physical names are made from. They differ only if the declaration says `as "…"`.
-/

namespace ModelIdl

/-- What a declaration declares. -/
inductive DeclarationKind where
  | model
  | embeddable
deriving DecidableEq, Repr

namespace DeclarationKind

/-- The keyword of the kind. -/
def text : DeclarationKind → String
  | model => "model"
  | embeddable => "embeddable"

/-- Do declarations of the kind have a table of their own? -/
def hasTable : DeclarationKind → Bool
  | model => true
  | embeddable => false

end DeclarationKind

/-- A field, placed at its name. Its annotations are those in front of the name, then those behind the
type. -/
structure Field (σ : Type) where
  name : String
  type : TypeRef σ
  annotations : List (Annot σ)
  place : σ

namespace Field

variable {σ τ : Type}

/-- The same field at another kind of place. -/
def map (f : σ → τ) (d : Field σ) : Field τ :=
  ⟨d.name, d.type.map f, d.annotations.map (·.map f), f d.place⟩

/-- Does the field carry an annotation with a name? -/
def hasAnnotation (d : Field σ) (name : String) : Bool :=
  d.annotations.any fun a => a.name == name

/-- The column name that the field's annotations ask for. -/
def columnOverride? (d : Field σ) : Option String :=
  Annot.override? "column" d.annotations

end Field

/-- A declaration, placed at its keyword. Fields of one name are all kept. -/
structure Declaration (σ : Type) where
  kind : DeclarationKind
  name : String
  logicalName : String
  annotations : List (Annot σ)
  fields : List (Field σ)
  place : σ

namespace Declaration

variable {σ τ : Type}

/-- The same declaration at another kind of place. -/
def map (f : σ → τ) (d : Declaration σ) : Declaration τ :=
  ⟨d.kind, d.name, d.logicalName, d.annotations.map (·.map f), d.fields.map (·.map f), f d.place⟩

/-- The table name that the declaration's annotations ask for. -/
def tableOverride? (d : Declaration σ) : Option String :=
  Annot.override? "table" d.annotations

/-- The sequence name that the declaration's annotations ask for. -/
def sequenceOverride? (d : Declaration σ) : Option String :=
  Annot.override? "sequence" d.annotations

end Declaration

/-- The declarations of a source, in order. -/
structure Schema (σ : Type) where
  declarations : List (Declaration σ)

namespace Schema

variable {σ τ : Type}

/-- The same schema at another kind of place. -/
def map (f : σ → τ) (s : Schema σ) : Schema τ :=
  ⟨s.declarations.map (·.map f)⟩

/-- The first declaration with a logical name. -/
def find? (s : Schema σ) (logicalName : String) : Option (Declaration σ) :=
  s.declarations.find? fun d => d.logicalName == logicalName

end Schema

end ModelIdl
