/-!
# ModelIdl.Report.Json

JSON texts, laid out with one item a line and two spaces a level. Empty lists stand on one line. Only
quotes, backslashes and control characters are escaped.
-/

namespace ModelIdl

/-- A JSON value of the kinds that reports need. Members keep their order. -/
inductive Json where
  | text (value : String)
  | list (items : List Json)
  | object (members : List (String × Json))

namespace Json

/-- The letter of a control character that has an escape of its own. -/
def controlLetter? : Char → Option Char
  | '\x08' => some 'b'
  | '\x0c' => some 'f'
  | '\n' => some 'n'
  | '\r' => some 'r'
  | '\t' => some 't'
  | _ => none

/-- A number below 256 in two hexadecimal digits. -/
def twoHexDigits (n : Nat) : List Char :=
  [Nat.digitChar (n / 16), Nat.digitChar (n % 16)]

/-- A character inside a JSON string. -/
def escaped (c : Char) : List Char :=
  if c = '"' ∨ c = '\\' then ['\\', c]
  else if c.toNat < 0x20 then
    match controlLetter? c with
    | some letter => ['\\', letter]
    | none => ['\\', 'u', '0', '0'] ++ twoHexDigits c.toNat
  else [c]

/-- A JSON string. -/
def quoted (s : String) : String :=
  String.ofList ('"' :: s.toList.flatMap escaped ++ ['"'])

/-- The start of a line so many levels deep. -/
def newLine (level : Nat) : String :=
  "\n" ++ String.ofList (List.replicate (2 * level) ' ')

mutual

/-- A value whose first line is so many levels deep. -/
def layout (level : Nat) : Json → String
  | .text value => quoted value
  | .list [] => "[]"
  | .list (item :: rest) =>
    "[" ++ newLine (level + 1) ++ item.layout (level + 1) ++ furtherItems (level + 1) rest ++
      newLine level ++ "]"
  | .object [] => "\x7b\x7d"
  | .object ((name, value) :: rest) =>
    "\x7b" ++ newLine (level + 1) ++ quoted name ++ ": " ++ value.layout (level + 1) ++
      furtherMembers (level + 1) rest ++ newLine level ++ "\x7d"

/-- The items behind the first, each on a line of its own. -/
def furtherItems (level : Nat) : List Json → String
  | [] => ""
  | item :: rest => "," ++ newLine level ++ item.layout level ++ furtherItems level rest

/-- The members behind the first, each on a line of its own. -/
def furtherMembers (level : Nat) : List (String × Json) → String
  | [] => ""
  | (name, value) :: rest =>
    "," ++ newLine level ++ quoted name ++ ": " ++ value.layout level ++ furtherMembers level rest

end

/-- The text of a value. -/
def pretty (j : Json) : String :=
  j.layout 0

end Json

end ModelIdl
