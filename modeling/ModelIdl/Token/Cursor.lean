import ModelIdl.Token.Gap
import ModelIdl.Token.Scan

/-!
# ModelIdl.Token.Cursor

Reading a source from one lexeme to the next. Design points:

* **A cursor is a position and the text left.** One step skips a gap, scans a lexeme and places it; the
  cursor behind it depends on nothing else.
* **Going on is always possible.** A fault leaves the cursor behind the faulty lexeme, and at the end of
  the input every further step finds the end again.
* **A stream** is the tokens up to the end of the input or up to the first fault, whichever comes first.
-/

namespace ModelIdl

/-- A place in a source, and the text from there on. -/
structure Cursor where
  position : Position
  text : List Char

/-- One step of reading: what stands at the next place, a token or a fault. -/
abbrev Lexeme (σ : Type) := Placed σ (Except Fault Token)

namespace Cursor

/-- The start of a source. -/
def ofSource (source : String) : Cursor :=
  ⟨.origin, source.toList⟩

/-- The place of the next lexeme. -/
def start (c : Cursor) : Position :=
  c.position.after (Gap.split c.text).1

/-- The scan of the next lexeme. -/
def scan (c : Cursor) : Scan Token :=
  Scan.token (Gap.split c.text).2

/-- The place behind the next lexeme. -/
def stop (c : Cursor) : Position :=
  c.start.after c.scan.lexeme

/-- The next lexeme, over the characters that its scan took. -/
def lexeme (c : Cursor) : Lexeme Span :=
  ⟨c.scan.outcome, c.start.to c.stop⟩

/-- The cursor behind the next lexeme. -/
def next (c : Cursor) : Cursor :=
  ⟨c.stop, c.scan.rest⟩

/-- The text taken by a step and the text left make up the text there was. -/
theorem text_eq (c : Cursor) :
    (Gap.split c.text).1 ++ c.scan.lexeme ++ c.next.text = c.text := by
  simp [scan, next, Scan.token_append, Gap.split_append]

/-- Behind the gap there is text left, unless the step finds the end of the input. -/
theorem left_ne_nil {c : Cursor} (h : c.lexeme.value ≠ .ok .endOfInput) :
    (Gap.split c.text).2 ≠ [] := by
  intro hnil
  apply h
  rw [lexeme, scan, hnil]
  rfl

theorem left_ne_nil_of_token {c : Cursor} {t : Token} (h : c.lexeme.value = .ok t)
    (hne : t ≠ .endOfInput) : (Gap.split c.text).2 ≠ [] := by
  refine left_ne_nil fun hend => hne ?_
  rw [h] at hend
  exact Except.ok.inj hend

/-- A step leaves less text, unless it finds the end of the input. -/
theorem length_next_lt (c : Cursor) (h : c.lexeme.value ≠ .ok .endOfInput) :
    c.next.text.length < c.text.length := by
  have h₁ := Scan.length_rest_lt_of_ne_nil (left_ne_nil h)
  have h₂ := Gap.length_split_le c.text
  simp only [next, scan]
  omega

/-- The end of the input leaves no text. -/
theorem next_text_of_endOfInput (c : Cursor) (h : c.lexeme.value = .ok .endOfInput) :
    c.next.text = [] := by
  have hnil := Scan.eq_nil_of_token_endOfInput h
  simp [next, scan, hnil, Scan.token]

end Cursor

/-! ### Streams -/

/-- How a stream of tokens ends, and where. -/
inductive Ending (σ : Type) where
  | finished (place : σ)
  | faulty (fault : Fault) (place : σ)
deriving DecidableEq

/-- The tokens of a text, and how they end. The end of the input is not among them. -/
structure TokenStream (σ : Type) where
  tokens : List (Placed σ Token)
  ending : Ending σ

namespace TokenStream

/-- A stream with a further token in front. -/
def cons {σ : Type} (t : Placed σ Token) (s : TokenStream σ) : TokenStream σ :=
  { s with tokens := t :: s.tokens }

end TokenStream

namespace Cursor

/-- Reads on to the end of the input or the first fault. -/
def stream (c : Cursor) : TokenStream Span × Cursor :=
  match _h : c.lexeme.value with
  | .error fault => (⟨[], .faulty fault c.lexeme.place⟩, c.next)
  | .ok token =>
    if _hend : token = .endOfInput then (⟨[], .finished c.lexeme.place⟩, c.next)
    else
      let (rest, behind) := stream c.next
      (rest.cons ⟨token, c.lexeme.place⟩, behind)
termination_by c.text.length
decreasing_by
  refine length_next_lt c ?_
  simp [_h, _hend]

end Cursor

/-- The tokens of a source. -/
def TokenStream.ofSource (source : String) : TokenStream Span :=
  (Cursor.ofSource source).stream.1

end ModelIdl
