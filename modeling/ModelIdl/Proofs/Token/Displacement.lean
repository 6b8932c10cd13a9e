import ModelIdl.Proofs.Source.Stretches
import ModelIdl.Proofs.Token.Streams

/-!
# ModelIdl.Proofs.Token.Displacement

Places that are moved. A text is read the same wherever it stands, except that the places of its tokens
move with it. Design points:

* **A motion** moves places in step with reading: what stands behind some characters moves as what stands in
  front of them does (`Motion`). Whatever moves so, streams move along (`Cursor.stream_moved`).
* **A shift** by some bytes and some whole lines is the motion of a text from the start of one line to the
  start of another (`Cursor.stream_shift`). Columns do not move, for a column says nothing of other lines.
-/

namespace ModelIdl

variable {σ τ : Type}

/-! ### The same thing at another place -/

/-- The same value at another kind of place. -/
def Placed.map {α : Type} (f : σ → τ) (x : Placed σ α) : Placed τ α :=
  ⟨x.value, f x.place⟩

/-- The same ending at another kind of place. -/
def Ending.map (f : σ → τ) : Ending σ → Ending τ
  | .finished place => .finished (f place)
  | .faulty fault place => .faulty fault (f place)

/-- The same tokens and ending at another kind of place. -/
def TokenStream.map (f : σ → τ) (s : TokenStream σ) : TokenStream τ :=
  ⟨s.tokens.map (·.map f), s.ending.map f⟩

@[simp] theorem TokenStream.map_cons (f : σ → τ) (t : Placed σ Token) (s : TokenStream σ) :
    (s.cons t).map f = (s.map f).cons (t.map f) := rfl

/-! ### Motions -/

/-- A way to move places in step with reading. -/
structure Motion where
  position : Position → Position
  span : Span → Span
  /-- The places that the motion is meant for. -/
  Fitting : Position → Prop
  fitting_past : ∀ {p : Position} (c : Char), Fitting p → Fitting (p.past c)
  past_position : ∀ {p : Position} (c : Char), Fitting p → (position p).past c = position (p.past c)
  to_position : ∀ p q : Position, (position p).to (position q) = span (p.to q)

namespace Motion

variable (m : Motion) {p : Position}

theorem fitting_after (h : m.Fitting p) (text : List Char) : m.Fitting (p.after text) := by
  induction text generalizing p with
  | nil => exact h
  | cons c text ih => exact ih (m.fitting_past c h)

theorem after_position (h : m.Fitting p) (text : List Char) :
    (m.position p).after text = m.position (p.after text) := by
  induction text generalizing p with
  | nil => rfl
  | cons c text ih => rw [Position.after_cons, Position.after_cons, m.past_position c h, ih (m.fitting_past c h)]

end Motion

namespace Cursor

/-- The same text at the place that a motion takes it to. -/
def moved (m : Motion) (c : Cursor) : Cursor :=
  ⟨m.position c.position, c.text⟩

variable (m : Motion) {c : Cursor}

theorem fitting_next (h : m.Fitting c.position) : m.Fitting c.next.position :=
  m.fitting_after (m.fitting_after h _) _

theorem start_moved (h : m.Fitting c.position) : (c.moved m).start = m.position c.start :=
  m.after_position h _

theorem stop_moved (h : m.Fitting c.position) : (c.moved m).stop = m.position c.stop := by
  rw [stop, start_moved m h]
  exact m.after_position (m.fitting_after h _) _

theorem lexeme_moved (h : m.Fitting c.position) : (c.moved m).lexeme = c.lexeme.map m.span := by
  rw [lexeme, start_moved m h, stop_moved m h, m.to_position]
  rfl

theorem next_moved (h : m.Fitting c.position) : (c.moved m).next = c.next.moved m := by
  rw [next, stop_moved m h]
  rfl

/-- At another place, a text is read as the same stream, with its places moved along. -/
theorem stream_moved (h : m.Fitting c.position) :
    (c.moved m).stream.1 = c.stream.1.map m.span ∧ (c.moved m).stream.2 = c.stream.2.moved m := by
  have hvalue {c : Cursor} (h : m.Fitting c.position) : (c.moved m).lexeme.value = c.lexeme.value := by
    rw [lexeme_moved m h]
    rfl
  induction c using stream.induct with
  | case1 c fault hfault =>
    rw [stream_of_fault hfault, stream_of_fault (by rw [hvalue h, hfault]), lexeme_moved m h, next_moved m h]
    exact ⟨rfl, rfl⟩
  | case2 c hend =>
    rw [stream_of_end hend, stream_of_end (by rw [hvalue h, hend]), lexeme_moved m h, next_moved m h]
    exact ⟨rfl, rfl⟩
  | case3 c token htoken hend _ _ _ ih =>
    obtain ⟨htokens, hbehind⟩ := ih (fitting_next m h)
    rw [stream_of_token htoken hend, stream_of_token (by rw [hvalue h, htoken]) hend, lexeme_moved m h,
      next_moved m h]
    refine ⟨?_, hbehind⟩
    rw [TokenStream.map_cons, ← htokens]
    rfl

end Cursor

/-! ### Shifted places -/

/-- The place so many bytes and whole lines further on. -/
def Position.shift (bytes lines : Nat) (p : Position) : Position :=
  ⟨p.offset + bytes, p.line + lines, p.column⟩

/-- The stretch so many bytes and whole lines further on. -/
def Span.shift (bytes lines : Nat) (s : Span) : Span :=
  ⟨s.start + bytes, s.stop + bytes, s.line + lines, s.column⟩

namespace Position

variable (bytes lines : Nat)

theorem past_shift (p : Position) (c : Char) :
    (p.shift bytes lines).past c = (p.past c).shift bytes lines := by
  unfold past shift
  by_cases hc : c = '\n'
  · simp only [hc, if_true, Position.mk.injEq, and_true]
    omega
  · simp only [hc, if_false, Position.mk.injEq, and_true]
    omega

/-- Behind a source and a line feed, places are those of a source of its own, shifted by both. -/
theorem after_newline (source : String) :
    origin.after (source.toList ++ ['\n']) =
      origin.shift (source.utf8ByteSize + 1) (1 + source.toList.count '\n') := by
  obtain ⟨hoffset, hline⟩ := offset_line_after origin source.toList
  rw [byteSize_toList] at hoffset
  have hsize : '\n'.utf8Size = 1 := by decide
  rw [after_append, after_cons, after_nil, past, if_pos rfl, hoffset, hline, hsize]
  simp only [shift, origin, Position.mk.injEq, and_true]
  omega

end Position

/-! ### Shifted streams -/

/-- Shifting, as a motion of all places. -/
def Motion.shift (bytes lines : Nat) : Motion where
  position := Position.shift bytes lines
  span := Span.shift bytes lines
  Fitting _ := True
  fitting_past _ _ := trivial
  past_position c _ := Position.past_shift bytes lines _ c
  to_position _ _ := rfl

namespace Cursor

/-- The same text so many bytes and whole lines further on. -/
def shift (bytes lines : Nat) (c : Cursor) : Cursor :=
  ⟨c.position.shift bytes lines, c.text⟩

/-- Further on, a text is read as the same stream, at the places further on. -/
theorem stream_shift (bytes lines : Nat) (c : Cursor) :
    (c.shift bytes lines).stream.1 = c.stream.1.map (Span.shift bytes lines) :=
  (stream_moved (Motion.shift bytes lines) trivial).1

end Cursor

end ModelIdl
