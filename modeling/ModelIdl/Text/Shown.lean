import ModelIdl.Text.Printable

/-!
# ModelIdl.Text.Shown

Characters and strings as diagnostics and listings show them. A character that has a short escape is
shown by it, a printable one as it is, and any other by its code point, `\u{…}` in hexadecimal
without leading zeros.
-/

namespace ModelIdl.Text

/-- The letter or mark that stands for a character after a backslash. -/
def escapeLetter? : Char → Option Char
  | '\x00' => some '0'
  | '\t' => some 't'
  | '\n' => some 'n'
  | '\r' => some 'r'
  | '\\' => some '\\'
  | '\x22' => some '\x22'
  | '\x27' => some '\x27'
  | _ => none

/-- A character named by its code point. -/
def codePointEscape (c : Char) : List Char :=
  ['\\', 'u', '{'] ++ Nat.toDigits 16 c.toNat ++ ['}']

/-- A character as a diagnostic shows it. -/
def shownChar (c : Char) : List Char :=
  match escapeLetter? c with
  | some letter => ['\\', letter]
  | none => if isPrintable c then [c] else codePointEscape c

/-- A character inside a shown string: as in a diagnostic, but a single quote needs no escape there. -/
def shownInString (c : Char) : List Char :=
  if c = '\x27' then [c] else shownChar c

/-- A string in double quotes, with everything escaped that could be mistaken. -/
def shownString (s : String) : String :=
  String.ofList ('"' :: s.toList.flatMap shownInString ++ ['"'])

end ModelIdl.Text
