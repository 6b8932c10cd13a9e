import Mathlib
import ModelIdl.Proofs.Schema.Places
import ModelIdl.Proofs.Schema.Recognition

/-!
# ModelIdl.Proofs.Schema.Concatenation

Sources that are put one behind the other. An accepted source takes nothing from what stands behind it
on a line of its own: the whole has the declarations of the one and then whatever the other gives, with
the places of the other shifted (`parse_append_newline`).
-/

namespace ModelIdl

open Grammar

/-- Tokens that are accepted are a schema of their own in front of any others. -/
theorem Schema.ofStream_prepend {σ : Type} {ts : List (Placed σ Token)} {place : σ} {u : Schema σ}
    (h : Schema.ofStream ⟨ts, .finished place⟩ = .ok u) (hnames : ∀ t ∈ ts, t.value ≠ .name "")
    (s : TokenStream σ) :
    Schema.ofStream (s.prepend ts) =
      match Schema.ofStream s with
      | .ok v => .ok ⟨u.declarations ++ v.declarations⟩
      | .error e => .error e := by
  obtain ⟨-, hunit, hlimits⟩ := (Schema.ofStream_eq_ok_iff hnames u).1 h
  simp only [Schema.ofStream, TokenStream.prepend, Reader.declarations_append hunit hlimits]
  cases Reader.declarations s.tokens with
  | error r => rfl
  | ok read => cases s.ending <;> rfl

/-- Behind a source that reads to its end and a line feed, a further source reads as its own tokens, at
shifted places. -/
theorem TokenStream.ofSource_append_newline {a : String} {ts : List (Placed Span Token)} {place : Span}
    (h : TokenStream.ofSource a = ⟨ts, .finished place⟩) (b : String) :
    TokenStream.ofSource (a ++ "\n" ++ b) =
      ((TokenStream.ofSource b).map
        (Span.shift (a.utf8ByteSize + 1) (1 + a.toList.count '\n'))).prepend ts := by
  have htext : (a ++ "\n" ++ b).toList = a.toList ++ '\n' :: b.toList := by simp
  have hshift := Cursor.stream_shift (a.utf8ByteSize + 1) (1 + a.toList.count '\n')
    (Cursor.ofSource b)
  rw [Cursor.shift, Cursor.ofSource, ← Position.after_newline] at hshift
  rw [TokenStream.ofSource, Cursor.ofSource, htext]
  rw [TokenStream.ofSource, Cursor.ofSource] at h
  rw [Cursor.stream_append_newline h b.toList, hshift]
  rfl

/-- Behind an accepted source and a line feed, a further source parses as it does alone, at shifted
places, and behind the declarations in front. -/
theorem Schema.parse_behind_newline {a : String} {u : Schema Span} (h : Schema.parse a = .ok u)
    (b : String) :
    Schema.parse (a ++ "\n" ++ b) =
      match Schema.parse b with
      | .ok v => .ok ⟨u.declarations ++
          (v.map (Span.shift (a.utf8ByteSize + 1) (1 + a.toList.count '\n'))).declarations⟩
      | .error e => .error (e.map (Span.shift (a.utf8ByteSize + 1) (1 + a.toList.count '\n'))) := by
  obtain ⟨⟨place, hend⟩, -, -⟩ :=
    (Schema.ofStream_eq_ok_iff (TokenStream.ofSource_names a) u).1 h
  have hstream : TokenStream.ofSource a = ⟨(TokenStream.ofSource a).tokens, .finished place⟩ := by
    rw [← hend]
  rw [Schema.parse, hstream] at h
  -- the whole is the first source's tokens and then the second one's, and both parse as they do alone
  rw [Schema.parse, TokenStream.ofSource_append_newline hstream b,
    Schema.ofStream_prepend h (TokenStream.ofSource_names a), Schema.ofStream_map, Schema.parse]
  cases Schema.ofStream (TokenStream.ofSource b) <;> rfl

/-- Behind an accepted source and a line feed, a further source adds its declarations, or fails the whole
with its own error. Its places are shifted by the bytes and the lines in front; the schema of the first
source stays as it is. -/
theorem Schema.parse_append_newline {a b : String} {u : Schema Span} (h : Schema.parse a = .ok u) :
    let shift := Span.shift (a.utf8ByteSize + 1) (1 + a.toList.count '\n')
    (∀ v, Schema.parse b = .ok v →
      Schema.parse (a ++ "\n" ++ b) = .ok ⟨u.declarations ++ (v.map shift).declarations⟩) ∧
    ∀ e, Schema.parse b = .error e →
      ∃ e', Schema.parse (a ++ "\n" ++ b) = .error e' ∧ e' = e.map shift ∧ e'.text = e.text ∧
        e'.expectedText = e.expectedText ∧ e'.foundText = e.foundText ∧ e'.place = shift e.place := by
  intro shift
  have hwhole := Schema.parse_behind_newline h b
  constructor
  · intro v hv
    rw [hwhole, hv]
  · intro e he
    exact ⟨e.map shift, by rw [hwhole, he], rfl, e.texts_map shift⟩

/-- A comment at the end of the first source ends with its line, and its bytes count. -/
theorem Schema.parse_comment_newline :
    Schema.parse "model A {} // é" = .ok ⟨[⟨.model, "A", "A", [], [], ⟨0, 5, 1, 1⟩⟩]⟩ ∧
      Schema.parse ("model A {} // é" ++ "\n" ++ "model B {}") =
        .ok ⟨[⟨.model, "A", "A", [], [], ⟨0, 5, 1, 1⟩⟩, ⟨.model, "B", "B", [], [], ⟨17, 22, 2, 1⟩⟩]⟩ := by
  have hbytes : "model A {} // é".utf8ByteSize = 16 := by decide
  have hlines : "model A {} // é".toList.count '\n' = 0 := by decide
  obtain ⟨hfirst, hsecond⟩ :
      parseWithin 5 "model A {} // é" = some (.ok ⟨[⟨.model, "A", "A", [], [], ⟨0, 5, 1, 1⟩⟩]⟩) ∧
      parseWithin 5 "model B {}" = some (.ok ⟨[⟨.model, "B", "B", [], [], ⟨0, 5, 1, 1⟩⟩]⟩) := by
    cbv
  have hwhole := (parse_append_newline (parse_of_parseWithin 5 hfirst)).1 _
    (parse_of_parseWithin 5 hsecond)
  rw [hbytes, hlines] at hwhole
  exact ⟨parse_of_parseWithin 5 hfirst, hwhole⟩

end ModelIdl
