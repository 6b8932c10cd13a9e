import Mathlib
import ModelIdl.Proofs.Token.Displacement
import ModelIdl.Proofs.Token.Requests

/-!
# ModelIdl.Proofs.Token.Resumption

Reading on in the middle of a source. Wherever a reader stands, at the end of a token, behind a fault or at
the end of the source, it goes on as a new reader of the text that is left, at other places
(`Cursor.run_resumes`). Design points:

* **Places beyond a base.** A place in the text that is left is as far behind the base, where that text
  begins, as it is behind the origin in a source of its own. Bytes and lines are added; columns only in the
  first line, for the other lines begin in the text itself (`Position.beyond`).
* **Going beyond a base is a motion** of all places (`Motion.beyond`), so reading goes along with it, request
  by request (`Cursor.run_moved`).
-/

namespace ModelIdl

/-! ### Places beyond a base -/

/-- The place in a source of a place in a text that begins at the base. -/
def Position.beyond (base p : Position) : Position where
  offset := p.offset + base.offset
  line := p.line + (base.line - 1)
  column := if p.line = 1 then p.column + (base.column - 1) else p.column

/-- The stretch in a source of a stretch in a text that begins at the base. -/
def Span.beyond (base : Position) (s : Span) : Span where
  start := s.start + base.offset
  stop := s.stop + base.offset
  line := s.line + (base.line - 1)
  column := if s.line = 1 then s.column + (base.column - 1) else s.column

namespace Position

theorem past_beyond (base : Position) {p : Position} (c : Char) (h : 1 ≤ p.line) :
    (base.beyond p).past c = base.beyond (p.past c) := by
  unfold past beyond
  by_cases hc : c = '\n'
  · -- a new line is not the first one
    simp only [hc, if_true, Position.mk.injEq]
    rw [if_neg (by omega)]
    omega
  · simp only [hc, if_false, Position.mk.injEq, true_and]
    refine ⟨by omega, ?_⟩
    split <;> omega

/-- Behind some text of a source there is a line and a column. -/
theorem line_column_pos (before : List Char) :
    1 ≤ (origin.after before).line ∧ 1 ≤ (origin.after before).column := by
  rw [(offset_line_after origin before).2, column_after]
  exact ⟨Nat.le_add_right _ _, Nat.le_add_right _ _⟩

theorem beyond_origin {base : Position} (hline : 1 ≤ base.line) (hcolumn : 1 ≤ base.column) :
    base.beyond origin = base := by
  obtain ⟨offset, line, column⟩ := base
  simp only [beyond, origin, if_true, Position.mk.injEq] at hline hcolumn ⊢
  omega

end Position

/-- Going beyond a base, as a motion of the places in any line. -/
def Motion.beyond (base : Position) : Motion where
  position := base.beyond
  span := Span.beyond base
  Fitting p := 1 ≤ p.line
  fitting_past {p} c h := by
    unfold Position.past
    split <;> simp only <;> omega
  past_position c h := Position.past_beyond base c h
  to_position _ _ := rfl

/-! ### Requests at other places -/

namespace Cursor

variable (m : Motion) {c : Cursor}

theorem fitting_ahead (h : m.Fitting c.position) (n : Nat) : m.Fitting (c.ahead n).position := by
  induction n generalizing c with
  | zero => exact h
  | succ n ih => exact ih (fitting_next m h)

theorem answer_moved (h : m.Fitting c.position) (request : Request) :
    (c.moved m).answer request = (c.answer request).map (Placed.map m.span) := by
  cases request with
  | next => rw [answer, answer, lexeme_moved m h, List.map_singleton]
  | item =>
    rw [answer, answer, lexeme_moved m h]
    cases hvalue : c.lexeme.value with
    | error fault => simp [Placed.map, hvalue]
    | ok token => cases token <;> simp [Placed.map, hvalue]
  | rest =>
    rw [answer, answer, readAll, readAll, (stream_moved m h).1]
    cases hending : c.stream.1.ending with
    | finished place => simp [TokenStream.map, Ending.map, hending, Placed.map, Placed.found]
    | faulty fault place => simp [TokenStream.map, Ending.map, hending, Placed.map]

theorem behind_moved (h : m.Fitting c.position) (request : Request) :
    (c.moved m).behind request = (c.behind request).moved m := by
  cases request with
  | next => exact next_moved m h
  | item => exact next_moved m h
  | rest => exact (stream_moved m h).2

/-- At another place, requests are answered as they are, with the places moved along. -/
theorem run_moved (h : m.Fitting c.position) (requests : List Request) :
    (c.moved m).run requests =
      ((c.run requests).1.map (Placed.map m.span), (c.run requests).2.moved m) := by
  induction requests generalizing c with
  | nil => rfl
  | cons request requests ih =>
    obtain ⟨n, -, hbehind⟩ := answer_walk c request
    have hfitting : m.Fitting (c.behind request).position := hbehind ▸ fitting_ahead m h n
    rw [run, behind_moved m h, ih hfitting, answer_moved m h, run, List.map_append]

/-! ### Reading on -/

/-- A reader of the text that a cursor has left. -/
def anew (c : Cursor) : Cursor :=
  ofSource (String.ofList c.text)

theorem fitting_anew (c : Cursor) : (Motion.beyond c.position).Fitting c.anew.position :=
  Nat.le_refl 1

namespace StandsBehind

variable {source : String} {before : List Char}

/-- In the middle of a source, a cursor is where a reader of the text that is left begins. -/
theorem eq_moved (h : c.StandsBehind source before) : c = c.anew.moved (Motion.beyond c.position) := by
  obtain ⟨hline, hcolumn⟩ := Position.line_column_pos before
  rw [← h.position_eq] at hline hcolumn
  rw [moved, anew, ofSource, String.toList_ofList]
  show c = ⟨c.position.beyond .origin, c.text⟩
  rw [Position.beyond_origin hline hcolumn]

theorem lexeme_eq (h : c.StandsBehind source before) :
    c.lexeme = c.anew.lexeme.map (Span.beyond c.position) :=
  calc c.lexeme = (c.anew.moved (Motion.beyond c.position)).lexeme := congrArg Cursor.lexeme h.eq_moved
    _ = c.anew.lexeme.map (Span.beyond c.position) := lexeme_moved _ c.fitting_anew

theorem next_eq (h : c.StandsBehind source before) :
    c.next = c.anew.next.moved (Motion.beyond c.position) :=
  calc c.next = (c.anew.moved (Motion.beyond c.position)).next := congrArg Cursor.next h.eq_moved
    _ = c.anew.next.moved (Motion.beyond c.position) := next_moved _ c.fitting_anew

theorem run_eq (h : c.StandsBehind source before) (requests : List Request) :
    c.run requests = ((c.anew.run requests).1.map (Placed.map (Span.beyond c.position)),
      (c.anew.run requests).2.moved (Motion.beyond c.position)) :=
  calc c.run requests = (c.anew.moved (Motion.beyond c.position)).run requests :=
        congrArg (Cursor.run · requests) h.eq_moved
    _ = _ := run_moved _ c.fitting_anew requests

end StandsBehind

theorem standsBehind_run (source : String) (requests : List Request) :
    ∃ before, ((ofSource source).run requests).2.StandsBehind source before := by
  obtain ⟨steps, -, hlast⟩ := run_walk (ofSource source) requests
  rw [hlast]
  exact (standsBehind_ofSource source).ahead steps

/-- However a source has been read so far, also over faults, the reader goes on as a new reader of the text
that is left. The next lexeme is the same token or the same fault, over a stretch that is so many bytes and
lines further on as the reader had come, and so many columns in the first line of the text that is left.
The reader behind it stands where the new reader stands, moved in the same way. All that is asked for from
there on is answered so. Two readers that have the same text left thus find the same, whatever they have
read so far. -/
theorem run_resumes (source : String) (requests : List Request) :
    let c := ((ofSource source).run requests).2
    (∃ before left : String, source = before ++ left ∧ before.utf8ByteSize = c.position.offset ∧
      let fresh := ofSource left
      (c.lexeme.value = fresh.lexeme.value ∧ c.lexeme.place = fresh.lexeme.place.beyond c.position) ∧
      (c.next.position = c.position.beyond fresh.next.position ∧ c.next.text = fresh.next.text) ∧
      ∀ further, (c.run further).1 = (fresh.run further).1.map (Placed.map (Span.beyond c.position)) ∧
        (c.run further).2.position = c.position.beyond (fresh.run further).2.position ∧
        (c.run further).2.text = (fresh.run further).2.text) ∧
    ∀ (other : String) (others : List Request), ((ofSource other).run others).2.text = c.text →
      ∀ further, (((ofSource other).run others).2.run further).1.map Placed.value =
        (c.run further).1.map Placed.value := by
  intro c
  obtain ⟨before, hbefore⟩ := standsBehind_run source requests
  constructor
  · refine ⟨String.ofList before, String.ofList c.text, ?_, ?_, ?_, ?_, fun further => ?_⟩
    · rw [← String.ofList_append, ← hbefore.text_eq, String.ofList_toList]
    · show byteSize before = c.position.offset
      rw [hbefore.position_eq, Position.offset_origin_after]
    · rw [hbefore.lexeme_eq]
      exact ⟨rfl, rfl⟩
    · rw [hbefore.next_eq]
      exact ⟨rfl, rfl⟩
    · rw [hbefore.run_eq]
      exact ⟨rfl, rfl, rfl⟩
  · intro other others hsame further
    obtain ⟨front, hfront⟩ := standsBehind_run other others
    have hanew : ((ofSource other).run others).2.anew = c.anew := by rw [anew, anew, hsame]
    rw [hfront.run_eq, hbefore.run_eq, hanew, List.map_map, List.map_map]
    rfl

set_option maxRecDepth 4000 in
/-- Behind a string that is not closed, and behind other tokens with the same text left: the next lexeme is in
the second line, so its column is that in the text that is left. -/
theorem run_resumes_behind_fault :
    let c := ((ofSource "é \"b\n A").run [.next, .next]).2
    let d := ((ofSource "x?\n A").run [.next, .item]).2
    c.position = ⟨5, 1, 5⟩ ∧ d.position = ⟨2, 1, 3⟩ ∧ d.text = c.text ∧
      (∃ left, c.lexeme.place = (ofSource left).lexeme.place.beyond c.position) ∧
      c.lexeme.place = ⟨7, 8, 2, 2⟩ ∧
      ∀ further, (d.run further).1.map Placed.value = (c.run further).1.map Placed.value := by
  have hc : ((ofSource "é \"b\n A").run [.next, .next]).2 = ⟨⟨5, 1, 5⟩, ['\n', ' ', 'A']⟩ := by cbv
  have hd : ((ofSource "x?\n A").run [.next, .item]).2 = ⟨⟨2, 1, 3⟩, ['\n', ' ', 'A']⟩ := by cbv
  have hlexeme : (⟨⟨5, 1, 5⟩, ['\n', ' ', 'A']⟩ : Cursor).lexeme.place = ⟨7, 8, 2, 2⟩ := by cbv
  intro c d
  have hsame : d.text = c.text :=
    (congrArg Cursor.text hd).trans (congrArg Cursor.text hc).symm
  obtain ⟨⟨before, left, -, -, ⟨-, hplace⟩, -⟩, hothers⟩ := run_resumes "é \"b\n A" [.next, .next]
  exact ⟨congrArg Cursor.position hc, congrArg Cursor.position hd, hsame, ⟨left, hplace⟩,
    (congrArg (fun c => c.lexeme.place) hc).trans hlexeme,
    hothers "x?\n A" [.next, .item] hsame⟩

end Cursor

end ModelIdl
