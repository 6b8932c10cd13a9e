import ModelIdl.Session.AnyDialect

/-!
# ModelIdl.Session.Basic

Sessions: one dialect, one connection source and one naming strategy. Design points:

* **Sources are told by their place.** Two sources with one URL may be two databases, so a source has an
  identity besides its URL: its place in memory. No two sources have one place at the same time. But a
  place is free for another source as soon as nothing holds the one that was there.
* **A session holds its source,** and so keeps it in its place.
* **Resolving is that of the dialect's rules** (`Session.ruled`); nothing else of the session matters to it.
-/

namespace ModelIdl

/-! ### Connection sources -/

/-- How a connection source holds its database. -/
inductive SourceKind where
  /-- A URL; connections are someone else's business. -/
  | url
  /-- A pool of connections. -/
  | pool
deriving DecidableEq, Repr

namespace SourceKind

/-- The kind in a word. -/
def text : SourceKind → String
  | url => "url"
  | pool => "pool"

end SourceKind

/-- A source of connections. The identity is its place in memory, which tells it from the other sources that
exist at the same time, also from those with the same URL. -/
structure ConnectionSource where
  identity : Nat
  kind : SourceKind
  url : String
deriving DecidableEq, Repr

namespace ConnectionSource

/-- A source in a log. -/
def listing (s : ConnectionSource) : String :=
  "ConnectionSource(" ++ Text.shownString s.url ++ ")"

end ConnectionSource

/-! ### Sessions -/

/-- A dialect bound to a connection source. -/
structure Session where
  /-- The id that the session was asked for under. -/
  dialectId : String
  dialect : Dialect
  source : ConnectionSource
  naming : Naming

namespace Session

variable {σ : Type}

/-- A session in a log. -/
def listing (s : Session) : String :=
  "DialectSession \x7b dialect_id: " ++ Text.shownString s.dialectId ++
    ", dialect: " ++ Text.shownString s.dialect.name ++
    ", source: " ++ Text.shownString s.source.url ++ ", .. \x7d"

/-- A session as one that asks its dialect. -/
def ruled (s : Session) : RuledSession where
  dialectId := s.dialectId
  rules := s.dialect.rules
  naming := s.naming

/-- What is wrong with an identifier of a declaration, if anything is. -/
def objection? (s : Session) (d : Declaration σ) (identifier : String) : Option SessionError :=
  s.ruled.objection? d identifier

/-- The quoted names and the statement that physical names give. -/
def quoteNames (s : Session) (names : PhysicalNames) : ResolvedNames :=
  s.ruled.quoteNames names

theorem quoteNames_eq (s : Session) (names : PhysicalNames) :
    s.quoteNames names = ⟨names, names.table.map s.dialect.quoteIdentifier,
      names.sequence.map s.dialect.nextValueSql,
      names.columns.map fun c => (c.1, s.dialect.quoteIdentifier c.2)⟩ := rfl

/-- Resolves a declaration, if no identifier of it is objected to. -/
def resolve (s : Session) (d : Declaration σ) : Except SessionError ResolvedNames :=
  s.ruled.resolve d

/-- The statement that draws the next value of a declaration's sequence, if it has one. Only the
sequence is checked. -/
def nextValueSql (s : Session) (d : Declaration σ) : Except SessionError (Option String) :=
  s.ruled.nextValueSql d

end Session

end ModelIdl
