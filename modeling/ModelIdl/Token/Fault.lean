import ModelIdl.Source.Span
import ModelIdl.Text.Shown
import ModelIdl.Token.Basic

/-!
# ModelIdl.Token.Fault

What can be wrong with a text where a token should be.
-/

namespace ModelIdl

/-- The ways in which no token can be read. -/
inductive Fault where
  /-- A string reaches the end of its line or of the input before its closing quote. -/
  | unterminatedString
  /-- No token starts with the character. -/
  | invalidCharacter (c : Char)
  /-- A backslash stands before a character that it cannot escape. -/
  | invalidEscape (c : Char)
  /-- A block comment is never closed. -/
  | unterminatedComment
  /-- An integer does not fit 64 bits. -/
  | invalidNumber
deriving DecidableEq, Repr

namespace Fault

/-- A fault in words. -/
def describe : Fault → String
  | unterminatedString => "unterminated string literal"
  | invalidCharacter c =>
    "invalid character " ++ Token.backquoted (String.ofList (Text.shownChar c))
  | invalidEscape c =>
    "invalid escape " ++ Token.backquoted (String.ofList ('\\' :: Text.shownChar c))
  | unterminatedComment => "unterminated block comment"
  | invalidNumber => "invalid numeric literal"

/-- A fault in words, with the place where the faulty lexeme starts. -/
def message (e : Placed Span Fault) : String :=
  e.value.describe ++ " at " ++ e.place.text

end Fault

end ModelIdl
