import ModelIdl.Token.Cursor

/-!
# ModelIdl.Schema.ParseError

Why a text is no schema. Either no token can be read at some place, or the token there is not one of
those that could stand there. In the second case the error says what was expected; two expectations
are about more than the kind of token, and have messages of their own.
-/

namespace ModelIdl

/-- How many angle brackets may be open around a type. -/
def maxTypeDepth : Nat := 64

/-- What could have stood at a place. -/
inductive Expectation where
  | declaration
  /-- Behind annotations, which must belong to a declaration. -/
  | declarationKeyword
  | declarationName
  | logicalName
  /-- A logical name that is not the empty string. -/
  | nonEmptyLogicalName
  | openBrace
  /-- At the end of the input inside a body. -/
  | fieldOrCloseBrace
  | fieldName
  | colon
  | type
  /-- A type that is not another argument list inside too many. -/
  | shallowerType
  | closeAngle
  | closeBracket
  | atSign
  | annotationName
  | closeParen
  | literal
deriving DecidableEq, Repr

namespace Expectation

/-- An expectation in words. -/
def text : Expectation → String
  | declaration => "declaration"
  | declarationKeyword => "`model` or `embeddable`"
  | declarationName => "declaration name"
  | logicalName => "logical name string"
  | nonEmptyLogicalName => "non-empty logical name"
  | openBrace => "`\x7b`"
  | fieldOrCloseBrace => "field or `\x7d`"
  | fieldName => "field name or `\x7d`"
  | colon => "`:`"
  | type => "type"
  | shallowerType => "shallower type nesting"
  | closeAngle => "`>` or `,`"
  | closeBracket => "`]`"
  | atSign => "`@`"
  | annotationName => "annotation name"
  | closeParen => "`)` or `,`"
  | literal => "literal"

/-- What an error says was found instead. -/
def foundText (found : Token) : Expectation → String
  | nonEmptyLogicalName => "empty string"
  | _ => found.describe

/-- What an error says was wrong. -/
def complaint (found : Token) : Expectation → String
  | nonEmptyLogicalName => "logical name must not be empty"
  | shallowerType => "type nesting exceeds " ++ Nat.repr maxTypeDepth ++ " levels"
  | e => "expected " ++ e.text ++ ", found " ++ foundText found e

end Expectation

/-- The first thing wrong with a text. -/
inductive ParseError (σ : Type) where
  /-- No token can be read at the place. -/
  | lexical (fault : Fault) (place : σ)
  /-- The token at the place cannot stand there. -/
  | grammatical (expected : Expectation) (found : Token) (place : σ)
deriving DecidableEq

namespace ParseError

variable {σ τ : Type}

/-- Where the error is. -/
def place : ParseError σ → σ
  | lexical _ place => place
  | grammatical _ _ place => place

/-- The same error at another kind of place. -/
def map (f : σ → τ) : ParseError σ → ParseError τ
  | lexical fault place => lexical fault (f place)
  | grammatical expected found place => grammatical expected found (f place)

/-- The error in words, without its place. -/
def text : ParseError σ → String
  | lexical fault _ => fault.describe
  | grammatical expected found _ => expected.complaint found

/-- What was expected, in words. -/
def expectedText : ParseError σ → String
  | lexical _ _ => "a valid token"
  | grammatical expected _ _ => expected.text

/-- What was found, in words. -/
def foundText : ParseError σ → String
  | lexical fault _ => fault.describe
  | grammatical expected found _ => expected.foundText found

/-- The error in words, with the place where it is. -/
def message (e : ParseError Span) : String :=
  e.text ++ " at " ++ e.place.text

end ParseError

end ModelIdl
