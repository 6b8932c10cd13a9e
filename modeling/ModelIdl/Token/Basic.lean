import ModelIdl.Decimal.Shortest

/-!
# ModelIdl.Token.Basic

The tokens of the model definition language: literals, names, keywords and symbols. A token carries
what it means, not how it was written: string escapes are resolved and numbers are read.
-/

namespace ModelIdl

/-! ### Keywords -/

/-- The reserved words. They are matched by exact spelling. -/
inductive Keyword where
  | model
  | embeddable
  | as
  | truth
  | falsity
  | null
deriving DecidableEq, Repr

namespace Keyword

/-- The spelling of a keyword. -/
def text : Keyword → String
  | model => "model"
  | embeddable => "embeddable"
  | as => "as"
  | truth => "true"
  | falsity => "false"
  | null => "null"

/-- Every keyword. -/
def all : List Keyword :=
  [model, embeddable, as, truth, falsity, null]

/-- The keyword with a spelling. -/
def ofText? (word : String) : Option Keyword :=
  all.find? fun k => k.text == word

/-- Does the keyword open a declaration? -/
def opensDeclaration : Keyword → Bool
  | model | embeddable => true
  | _ => false

/-- A spelling is a keyword's exactly if it is the text of that keyword. -/
theorem ofText?_eq_some_iff {word : String} {k : Keyword} :
    ofText? word = some k ↔ k.text = word := by
  constructor
  · intro h
    simpa using List.find?_some h
  · rintro rfl
    cases k <;> rfl

end Keyword

/-! ### Symbols -/

/-- The one-character tokens. -/
inductive Symbol where
  | openBrace
  | closeBrace
  | openParen
  | closeParen
  | openBracket
  | closeBracket
  | openAngle
  | closeAngle
  | colon
  | semicolon
  | comma
  | atSign
  | question
deriving DecidableEq, Repr

namespace Symbol

/-- The character of a symbol. -/
def char : Symbol → Char
  | openBrace => '{'
  | closeBrace => '}'
  | openParen => '('
  | closeParen => ')'
  | openBracket => '['
  | closeBracket => ']'
  | openAngle => '<'
  | closeAngle => '>'
  | colon => ':'
  | semicolon => ';'
  | comma => ','
  | atSign => '@'
  | question => '?'

/-- The symbol with a character. -/
def ofChar? : Char → Option Symbol
  | '{' => some openBrace
  | '}' => some closeBrace
  | '(' => some openParen
  | ')' => some closeParen
  | '[' => some openBracket
  | ']' => some closeBracket
  | '<' => some openAngle
  | '>' => some closeAngle
  | ':' => some colon
  | ';' => some semicolon
  | ',' => some comma
  | '@' => some atSign
  | '?' => some question
  | _ => none

@[simp] theorem ofChar?_char (s : Symbol) : ofChar? s.char = some s := by
  cases s <;> rfl

end Symbol

/-! ### Tokens -/

/-- What a lexeme means. The end of the input counts as a token. -/
inductive Token where
  | integer (value : Int64)
  | number (value : Decimal.Binary64)
  | string (text : String)
  | name (text : String)
  | keyword (word : Keyword)
  | symbol (mark : Symbol)
  | endOfInput
deriving DecidableEq

/-- The coarse class of a token. -/
inductive TokenClass where
  | name
  | keyword
  | literal
  | punctuation
  | endOfInput
deriving DecidableEq, Repr

namespace Token

/-- The class of a token, which its payload does not change. -/
def tokenClass : Token → TokenClass
  | integer _ | number _ | string _ => .literal
  | name _ => .name
  | keyword _ => .keyword
  | symbol _ => .punctuation
  | endOfInput => .endOfInput

/-- The text in backquotes. -/
def backquoted (text : String) : String :=
  "`" ++ text ++ "`"

/-- A token as error messages name it. Strings are not escaped here. -/
def describe : Token → String
  | integer value => "integer " ++ backquoted (toString value.toInt)
  | number value => "number " ++ backquoted value.text
  | string text => "string \"" ++ text ++ "\""
  | name text => "identifier " ++ backquoted text
  | keyword word => "keyword " ++ backquoted word.text
  | symbol mark => backquoted (String.singleton mark.char)
  | endOfInput => "end of input"

end Token

/-! ### Placed values -/

/-- A value found in a source, with the place it was found at. Places are spans in practice; what
only passes them on works for any kind of place. -/
structure Placed (σ α : Type) where
  value : α
  place : σ
deriving DecidableEq

end ModelIdl
