import ModelIdl.Dialect.Basic
import ModelIdl.Naming.Physical

/-!
# ModelIdl.Session.AnyDialect

What sessions make of declarations, over any dialect. A session asks its dialect four things, and a
dialect of one's own may answer each of them as it likes: it may take longer names than the limit it
gives, or quote in a way that cannot be read back. What a session does with the answers is the same for
all dialects. Design points:

* **A session has an id of its own,** under which it was asked for; its dialect may have another name.
* **Every identifier is checked** before any is used, in the order table, sequence, columns. The first
  that is empty or refused for its length is what is wrong with the declaration.
-/

namespace ModelIdl

/-! ### Errors -/

/-- What can go wrong with sessions. -/
inductive SessionError where
  | unsupportedDialect (dialectId : String)
  | registryClosed
  | construction (dialectId : String) (why : String)
  /-- Some identifier of the declaration is the empty text. -/
  | emptyIdentifier (dialectId : String) (declaration : String)
  | identifierTooLong (dialectId : String) (identifier : String) (most : Nat)
deriving DecidableEq, Repr

namespace SessionError

/-- The error in words. -/
def message : SessionError → String
  | unsupportedDialect id => "unsupported dialect '" ++ id ++ "'"
  | registryClosed => "session registry is closed"
  | construction id why => "failed to create '" ++ id ++ "' session: " ++ why
  | emptyIdentifier id declaration =>
    "declaration '" ++ declaration ++ "' resolves to an empty identifier for dialect '" ++ id ++ "'"
  | identifierTooLong id identifier most =>
    "identifier '" ++ identifier ++ "' exceeds the " ++ Nat.repr most ++
      "-character limit of dialect '" ++ id ++ "'"

end SessionError

/-! ### Dialects -/

/-- What a session asks of its dialect. -/
structure DialectRules where
  /-- The limit that a refusal names. Without one, no name is refused for its length. -/
  maxLength : Option Nat
  fits : String → Bool
  quoteIdentifier : String → String
  nextValueSql : String → String

/-- The answers of a dialect. -/
def Dialect.rules (d : Dialect) : DialectRules where
  maxLength := d.maxLength
  fits := d.fits
  quoteIdentifier := d.quoteIdentifier
  nextValueSql := d.nextValueSql

/-! ### Resolving -/

/-- The physical names of a declaration, quoted for a dialect. -/
structure ResolvedNames where
  physical : PhysicalNames
  table : Option String
  nextValueSql : Option String
  /-- Each field's name with its quoted column, in order. -/
  columns : List (String × String)
deriving DecidableEq

/-- A session over any dialect. -/
structure RuledSession where
  dialectId : String
  rules : DialectRules
  naming : Naming

namespace RuledSession

variable {σ : Type}

/-- What is wrong with an identifier of a declaration, if anything is. -/
def objection? (s : RuledSession) (d : Declaration σ) (identifier : String) : Option SessionError :=
  if identifier.isEmpty then some (.emptyIdentifier s.dialectId d.name)
  else if s.rules.fits identifier then none
  else s.rules.maxLength.map fun most => .identifierTooLong s.dialectId identifier most

/-- The quoted names and the statement that physical names give. -/
def quoteNames (s : RuledSession) (names : PhysicalNames) : ResolvedNames where
  physical := names
  table := names.table.map s.rules.quoteIdentifier
  nextValueSql := names.sequence.map s.rules.nextValueSql
  columns := names.columns.map fun (field, column) => (field, s.rules.quoteIdentifier column)

/-- Resolves a declaration, if no identifier of it is objected to. -/
def resolve (s : RuledSession) (d : Declaration σ) : Except SessionError ResolvedNames :=
  let names := s.naming.physicalNames d
  match names.identifiers.findSome? (s.objection? d) with
  | some e => .error e
  | none => .ok (s.quoteNames names)

/-- The statement that draws the next value of a declaration's sequence, if it has one. Only the
sequence is checked. -/
def nextValueSql (s : RuledSession) (d : Declaration σ) : Except SessionError (Option String) :=
  match s.naming.sequenceOf d with
  | none => .ok none
  | some sequence =>
    match s.objection? d sequence with
    | some e => .error e
    | none => .ok (some (s.rules.nextValueSql sequence))

end RuledSession

end ModelIdl
