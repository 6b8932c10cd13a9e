import ModelIdl.Source.Span
import ModelIdl.Text.Alphabetic
import ModelIdl.Text.Numeric
import ModelIdl.Token.Fault
import ModelIdl.Token.Numeral

/-!
# ModelIdl.Token.Scan

Reading one lexeme at the front of a text that starts with no gap. Design points:

* **No positions.** A scan looks at the text alone and says how much of it was taken; positions follow
  from the taken text.
* **Faults take text too.** A faulty lexeme is taken as far as it was read, so scanning can go on
  behind it. Every scan of a non-empty text takes something (`length_rest_lt_of_ne_nil`).
-/

namespace ModelIdl

/-- What scanning found, the characters it took, and the text behind them. -/
structure Scan (α : Type) where
  outcome : Except Fault α
  lexeme : List Char
  rest : List Char

namespace Scan

/-- A scan of a text with further characters in front. -/
def taking {α β : Type} (front : List Char) (f : α → β) (s : Scan α) : Scan β :=
  ⟨s.outcome.map f, front ++ s.lexeme, s.rest⟩

@[simp] theorem taking_lexeme {α β : Type} (front : List Char) (f : α → β) (s : Scan α) :
    (s.taking front f).lexeme = front ++ s.lexeme := rfl

@[simp] theorem taking_rest {α β : Type} (front : List Char) (f : α → β) (s : Scan α) :
    (s.taking front f).rest = s.rest := rfl

/-! ### Strings -/

/-- The character that a backslash and another character write. -/
def unescape? : Char → Option Char
  | '"' => some '"'
  | '\\' => some '\\'
  | 'n' => some '\n'
  | 't' => some '\t'
  | 'r' => some '\r'
  | _ => none

/-- Reads a string behind its opening quote, up to and with its closing one. The first offence
ends it: a line feed (which is not taken), the end of the input, or an escape that does not exist. -/
def stringBody : List Char → Scan (List Char)
  | [] => ⟨.error .unterminatedString, [], []⟩
  | '"' :: rest => ⟨.ok [], ['"'], rest⟩
  | '\n' :: rest => ⟨.error .unterminatedString, [], '\n' :: rest⟩
  | ['\\'] => ⟨.error .unterminatedString, ['\\'], []⟩
  | '\\' :: c :: rest =>
    match unescape? c with
    | some d => (stringBody rest).taking ['\\', c] (d :: ·)
    | none => ⟨.error (.invalidEscape c), ['\\', c], rest⟩
  | c :: rest => (stringBody rest).taking [c] (c :: ·)

/-- The taken text and the rest make up the text. -/
theorem stringBody_append (text : List Char) :
    (stringBody text).lexeme ++ (stringBody text).rest = text := by
  fun_induction stringBody text <;> simp_all

/-! ### Names and keywords -/

/-- Can a name start with the character? -/
def startsName (c : Char) : Bool :=
  Text.isAlphabetic c || c == '_'

/-- Can a name go on with the character? -/
def continuesName (c : Char) : Bool :=
  Text.isAlphabetic c || Text.isNumeric c || c == '_'

/-- The token that a word stands for. -/
def wordToken (word : List Char) : Token :=
  match Keyword.ofText? (String.ofList word) with
  | some k => .keyword k
  | none => .name (String.ofList word)

/-- The longest word at the front of a text that starts with a name's first character. -/
def word (c : Char) (rest : List Char) : Scan Token :=
  let lexeme := c :: rest.takeWhile continuesName
  ⟨.ok (wordToken lexeme), lexeme, rest.dropWhile continuesName⟩

/-! ### Tokens -/

/-- The longest numeral at the front of a text. -/
def numeral (text : List Char) : Scan Token :=
  let (n, rest) := Numeral.read text
  ⟨match n.token? with
    | some t => .ok t
    | none => .error .invalidNumber, n.text, rest⟩

/-- Does a text start with a numeral: with a digit, or with a minus sign and a digit? -/
def startsNumeral : List Char → Bool
  | '-' :: d :: _ => d.isDigit
  | c :: _ => c.isDigit
  | [] => false

/-- Reads the lexeme at the front of a text that starts with no gap. A slash and a star then open a
comment that is never closed, for a closed one would be a gap. -/
def token (text : List Char) : Scan Token :=
  match text with
  | [] => ⟨.ok .endOfInput, [], []⟩
  | '"' :: rest => (stringBody rest).taking ['"'] fun s => .string (String.ofList s)
  | '/' :: '*' :: rest => ⟨.error .unterminatedComment, '/' :: '*' :: rest, []⟩
  | c :: rest =>
    match Symbol.ofChar? c with
    | some s => ⟨.ok (.symbol s), [c], rest⟩
    | none =>
      if startsNumeral text then numeral text
      else if startsName c then word c rest
      else ⟨.error (.invalidCharacter c), [c], rest⟩

theorem word_append (c : Char) (rest : List Char) :
    (word c rest).lexeme ++ (word c rest).rest = c :: rest := by
  simp [word]

theorem numeral_append (text : List Char) :
    (numeral text).lexeme ++ (numeral text).rest = text :=
  Numeral.text_append_of_read text

/-- The taken text and the rest make up the text. -/
theorem token_append (text : List Char) : (token text).lexeme ++ (token text).rest = text := by
  unfold token
  split
  · rfl
  · simp [stringBody_append]
  · simp
  · split
    · simp
    · split
      · exact numeral_append _
      · split
        · exact word_append _ _
        · simp

/-- A text that starts with a numeral has one with at least one digit. -/
theorem numeral_lexeme_ne_nil {text : List Char} (h : startsNumeral text = true) :
    (numeral text).lexeme ≠ [] := by
  intro hnil
  have key : ∀ (negative : Bool) (d : Char) (rest : List Char), d.isDigit = true →
      (Numeral.readDigits negative (d :: rest)).1.text ≠ [] := by
    intro negative d rest hd htext
    unfold Numeral.readDigits at htext
    split at htext <;> (try split at htext) <;>
      simp_all [Numeral.text, Numeral.leadingDigits]
  simp only [numeral] at hnil
  unfold startsNumeral at h
  split at h
  · exact key true _ _ h (by simpa [Numeral.read] using hnil)
  · rename_i c rest hne
    by_cases hc : c = '-'
    · subst hc
      simp [Char.isDigit] at h
    · exact key false c rest h (by simpa [Numeral.read, hc] using hnil)
  · simp at h

/-- A scan of a non-empty text takes something. -/
theorem token_lexeme_ne_nil {text : List Char} (h : text ≠ []) : (token text).lexeme ≠ [] := by
  unfold token
  split
  · exact absurd rfl h
  · simp
  · simp
  · split
    · simp
    · split
      · exact numeral_lexeme_ne_nil ‹_›
      · split <;> simp [word]

/-- A scan of a non-empty text leaves less than there was. -/
theorem length_rest_lt_of_ne_nil {text : List Char} (h : text ≠ []) :
    (token text).rest.length < text.length := by
  have hpos := List.length_pos_iff.2 (token_lexeme_ne_nil h)
  have := congrArg List.length (token_append text)
  simp at this
  omega

/-- Only the empty text scans as the end of the input. -/
theorem eq_nil_of_token_endOfInput {text : List Char}
    (h : (token text).outcome = .ok .endOfInput) : text = [] := by
  unfold token at h
  split at h
  · rfl
  · simp only [taking] at h
    cases hs : (stringBody ‹_›).outcome <;> simp [hs, Except.map] at h
  · simp at h
  · split at h
    · simp at h
    · split at h
      · simp only [numeral] at h
        split at h
        · rename_i t ht
          simp only [Except.ok.injEq] at h
          subst h
          unfold Numeral.token? at ht
          split at ht <;> simp at ht
        · simp at h
      · split at h
        · simp only [word, wordToken, Except.ok.injEq] at h
          split at h <;> simp at h
        · simp at h

end Scan

end ModelIdl
