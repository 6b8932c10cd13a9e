import ModelIdl.Text.Blank
import ModelIdl.Text.CaseMapping
import ModelIdl.Text.LetterCase

/-!
# ModelIdl.Naming.SnakeCase

Names in `snake_case` and `UPPER_SNAKE_CASE`. Design points:

* **Local rule.** What a character becomes depends on itself and its two neighbours only.
* **Separators** (`_`, `-` and blanks) in a row become one underscore.
* **Words** begin, beside after separators, at a capital behind a small letter or an ASCII digit, and at
  the last capital of a run if a small letter follows it: `HTTPRequest` is `http_request`.
* **Case mapping** is the full one of single characters, so a capital may become several characters.
-/

namespace ModelIdl.SnakeCase

/-- Does the character separate words by itself? -/
def isSeparator (c : Char) : Bool :=
  c == '_' || c == '-' || Text.isBlank c

/-- Does a word begin at the capital `c` between its neighbours? -/
def beginsWord (before c : Char) (behind : Option Char) : Bool :=
  Text.isUppercase c &&
    (Text.isLowercase before || before.isDigit ||
      (Text.isUppercase before && behind.any Text.isLowercase))

/-- What a character that is no separator becomes, without a joint in front. -/
def image (c : Char) : List Char :=
  if Text.isUppercase c then Text.lowered c else [c]

/-- What a character becomes between its neighbours. -/
def piece (before : Option Char) (c : Char) (behind : Option Char) : List Char :=
  if isSeparator c then
    if before.any isSeparator then [] else ['_']
  else
    (if before.any (beginsWord · c behind) then ['_'] else []) ++ image c

/-- The pieces of a text, one after the other, behind a given character. -/
def pieces (before : Option Char) : List Char → List Char
  | [] => []
  | c :: rest => piece before c rest.head? ++ pieces (some c) rest

/-- A name in small letters, its words joined by underscores. -/
def snake (name : List Char) : List Char :=
  pieces none name

/-- A name in capitals, its words joined by underscores. -/
def upperSnake (name : List Char) : List Char :=
  (snake name).flatMap Text.raised

@[simp] theorem snake_nil : snake [] = [] := rfl

@[simp] theorem upperSnake_nil : upperSnake [] = [] := rfl

theorem pieces_cons (before : Option Char) (c : Char) (rest : List Char) :
    pieces before (c :: rest) = piece before c rest.head? ++ pieces (some c) rest := rfl

end ModelIdl.SnakeCase

namespace ModelIdl

/-- A name in `snake_case`. -/
def toSnakeCase (name : String) : String :=
  String.ofList (SnakeCase.snake name.toList)

/-- A name in `UPPER_SNAKE_CASE`. -/
def toUpperSnakeCase (name : String) : String :=
  String.ofList (SnakeCase.upperSnake name.toList)

end ModelIdl
