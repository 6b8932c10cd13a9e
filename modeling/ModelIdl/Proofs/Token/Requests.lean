import ModelIdl.Proofs.Source.Stretches
import ModelIdl.Proofs.Token.Streams

/-!
# ModelIdl.Proofs.Token.Requests

One reader of a source, asked again and again. It can be asked for the next lexeme, for the next one
unless the input ends there, or for all that are left; behind a fault it goes on. However it is asked,
what it gives stands where it says it does, each lexeme behind the one before (`Cursor.run_in_place`).

* **A run is a walk.** Every request takes some steps, and answers with some of the lexemes of these
  steps (`run_walk`). So what holds for the lexemes of any number of steps holds for any run.
* **Places come from the text in front.** A cursor of a source stands behind some characters of it
  (`StandsBehind`), and a step leaves it behind some more.
-/

namespace ModelIdl

namespace Cursor

/-! ### Steps -/

/-- The cursor so many steps further on. -/
def ahead : Nat → Cursor → Cursor
  | 0, c => c
  | steps + 1, c => c.next.ahead steps

/-- The lexemes of so many steps. -/
def walk : Nat → Cursor → List (Lexeme Span)
  | 0, _ => []
  | steps + 1, c => c.lexeme :: c.next.walk steps

theorem ahead_add (m n : Nat) (c : Cursor) : c.ahead (m + n) = (c.ahead m).ahead n := by
  induction m generalizing c with
  | zero => rw [Nat.zero_add, ahead]
  | succ m ih => rw [Nat.succ_add, ahead, ahead, ih]

theorem walk_add (m n : Nat) (c : Cursor) : c.walk (m + n) = c.walk m ++ (c.ahead m).walk n := by
  induction m generalizing c with
  | zero => rw [Nat.zero_add, walk, ahead, List.nil_append]
  | succ m ih => rw [Nat.succ_add, walk, walk, ahead, ih, List.cons_append]

theorem exists_ahead_of_mem_walk {n : Nat} {c : Cursor} {l : Lexeme Span} (h : l ∈ c.walk n) :
    ∃ m, l = (c.ahead m).lexeme := by
  induction n generalizing c with
  | zero => cases h
  | succ n ih =>
    rcases List.mem_cons.1 h with rfl | h
    · exact ⟨0, rfl⟩
    · obtain ⟨m, rfl⟩ := ih h
      exact ⟨m + 1, rfl⟩

/-- A stream takes some steps, and what it yields is the lexemes of these. -/
theorem stream_walk (c : Cursor) : ∃ n, c.stream.1.items = c.walk n ∧ c.stream.2 = c.ahead n := by
  induction c using stream.induct with
  | case1 c fault h => exact ⟨1, by simp only [items_stream, h, walk], by rw [stream_of_fault h]; rfl⟩
  | case2 c h => exact ⟨1, by simp only [items_stream, h, walk], by rw [stream_of_end h]; rfl⟩
  | case3 c token h hend _ _ _ ih =>
    obtain ⟨n, hitems, hbehind⟩ := ih
    refine ⟨n + 1, ?_, by rw [stream_of_token h hend, hbehind, ahead]⟩
    have hlexeme : c.lexeme = ⟨.ok token, c.lexeme.place⟩ := by rw [← h]
    rw [walk, stream_of_token h hend, ← hitems, hlexeme]
    rfl

/-- The tokens of a stream are what its first steps find. -/
theorem found_prefix_walk (c : Cursor) :
    ∃ n, c.stream.1.tokens.map Placed.found <+: c.walk n := by
  obtain ⟨n, hitems, -⟩ := stream_walk c
  exact ⟨n, hitems ▸ List.prefix_append _ _⟩

/-! ### Requests -/

/-- What a reader can be asked for. -/
inductive Request where
  /-- The next lexeme. -/
  | next
  /-- The next lexeme, but nothing at the end of the input. -/
  | item
  /-- All tokens that are left, or else the first fault. -/
  | rest
deriving DecidableEq, Repr

/-- All tokens that are left, the end of the input behind them, or else the first fault. -/
def readAll (c : Cursor) : Except (Placed Span Fault) (List (Placed Span Token)) :=
  match c.stream.1.ending with
  | .finished place => .ok (c.stream.1.tokens ++ [⟨.endOfInput, place⟩])
  | .faulty fault place => .error ⟨fault, place⟩

/-- What a request is answered with. -/
def answer (c : Cursor) : Request → List (Lexeme Span)
  | .next => [c.lexeme]
  | .item =>
    match c.lexeme.value with
    | .ok .endOfInput => []
    | _ => [c.lexeme]
  | .rest =>
    match c.readAll with
    | .ok ts => ts.map Placed.found
    | .error e => [⟨.error e.value, e.place⟩]

/-- The cursor behind what a request has read. -/
def behind (c : Cursor) : Request → Cursor
  | .next | .item => c.next
  | .rest => c.stream.2

/-- The answers to requests, one behind the other, and the cursor behind the last. -/
def run (c : Cursor) : List Request → List (Lexeme Span) × Cursor
  | [] => ([], c)
  | request :: requests =>
    let (answers, last) := run (c.behind request) requests
    (c.answer request ++ answers, last)

/-- The answer to a request is some of the lexemes of the steps that it takes. -/
theorem answer_walk (c : Cursor) (request : Request) :
    ∃ n, (c.answer request).Sublist (c.walk n) ∧ c.behind request = c.ahead n := by
  cases request with
  | next => exact ⟨1, List.Sublist.refl _, rfl⟩
  | item =>
    refine ⟨1, ?_, rfl⟩
    simp only [answer]
    split
    · exact List.nil_sublist _
    · exact List.Sublist.refl _
  | rest =>
    obtain ⟨n, hitems, hbehind⟩ := stream_walk c
    refine ⟨n, ?_, hbehind⟩
    rw [← hitems, TokenStream.items, answer, readAll]
    cases c.stream.1.ending with
    | finished place =>
      simp only [List.map_append]
      exact List.Sublist.refl _
    | faulty fault place => exact List.sublist_append_right _ _

/-- The answers of a run are some of the lexemes of the steps that it takes. -/
theorem run_walk (c : Cursor) (requests : List Request) :
    ∃ n, (c.run requests).1.Sublist (c.walk n) ∧ (c.run requests).2 = c.ahead n := by
  induction requests generalizing c with
  | nil => exact ⟨0, List.Sublist.refl _, rfl⟩
  | cons request requests ih =>
    obtain ⟨m, hanswer, hbehind⟩ := answer_walk c request
    obtain ⟨n, hanswers, hlast⟩ := ih (c.behind request)
    refine ⟨m + n, ?_, ?_⟩
    · rw [walk_add, ← hbehind]
      exact hanswer.append hanswers
    · rw [ahead_add, ← hbehind, ← hlast]
      rfl

/-! ### Places -/

/-- The cursor stands in the source behind some characters of it. -/
structure StandsBehind (c : Cursor) (source : String) (before : List Char) : Prop where
  text_eq : source.toList = before ++ c.text
  position_eq : c.position = Position.origin.after before

theorem standsBehind_ofSource (source : String) : (ofSource source).StandsBehind source [] :=
  ⟨rfl, rfl⟩

variable {c : Cursor} {source : String} {before : List Char}

/-- The source around a lexeme, and its place. -/
theorem StandsBehind.lexeme (h : c.StandsBehind source before) :
    source.toList = before ++ (Gap.split c.text).1 ++ c.scan.lexeme ++ c.next.text ∧
      c.lexeme.place = (Position.origin.after (before ++ (Gap.split c.text).1)).to
        (Position.origin.after (before ++ (Gap.split c.text).1 ++ c.scan.lexeme)) := by
  constructor
  · calc source.toList = before ++ c.text := h.text_eq
      _ = before ++ ((Gap.split c.text).1 ++ c.scan.lexeme ++ c.next.text) := by rw [c.text_eq]
      _ = _ := by simp only [List.append_assoc]
  · simp only [Cursor.lexeme, stop, start, h.position_eq, Position.after_append]

theorem StandsBehind.next (h : c.StandsBehind source before) :
    c.next.StandsBehind source (before ++ (Gap.split c.text).1 ++ c.scan.lexeme) := by
  refine ⟨h.lexeme.1, ?_⟩
  simp only [Cursor.next, stop, start, h.position_eq, Position.after_append]

theorem StandsBehind.ahead (h : c.StandsBehind source before) (n : Nat) :
    ∃ front, (c.ahead n).StandsBehind source front := by
  induction n generalizing c before with
  | zero => exact ⟨before, h⟩
  | succ n ih => exact ih h.next

end Cursor

/-- The lexeme stands where its place says. The end of the input is nothing at the end of the source,
and all else is something. -/
structure Lexeme.InPlace (source : String) (l : Lexeme Span) : Prop where
  fits : l.place.Fits source
  nonempty : l.value ≠ .ok .endOfInput → l.place.start < l.place.stop
  atEnd : l.value = .ok .endOfInput →
    l.place.start = source.utf8ByteSize ∧ l.place.stop = source.utf8ByteSize

/-- The source can be cut at the cursor and everywhere behind it, with the text left there behind the cut,
and what the next place cuts out is the next lexeme. -/
structure Cursor.Cuts (source : String) (c : Cursor) : Prop where
  behind : ∀ front left, c.text = front ++ left →
    ∃ before, Span.cutAt? (c.position.after front).offset source.toList = some (before, left)
  lexeme : c.lexeme.place.slice? source.toList = some c.scan.lexeme

namespace Cursor

variable {c : Cursor} {source : String} {before : List Char}

theorem StandsBehind.inPlace (h : c.StandsBehind source before) : Lexeme.InPlace source c.lexeme := by
  obtain ⟨htext, hplace⟩ := h.lexeme
  constructor
  · rw [hplace]
    exact Span.fits_of_append htext
  · intro hne
    have hbytes := byteSize_pos (Scan.token_lexeme_ne_nil (left_ne_nil hne))
    rw [hplace, Position.to]
    simp only [Position.offset_origin_after, byteSize_append, scan]
    omega
  · intro hend
    have hleft : (Gap.split c.text).2 = [] := Scan.eq_nil_of_token_endOfInput hend
    have hlexeme : c.scan.lexeme = [] := by
      rw [scan, hleft]
      rfl
    rw [c.next_text_of_endOfInput hend, hlexeme, List.append_nil, List.append_nil] at htext
    rw [hplace, hlexeme, List.append_nil, ← htext, Position.to, Position.offset_origin_after,
      byteSize_toList]
    exact ⟨rfl, rfl⟩

theorem StandsBehind.cuts (h : c.StandsBehind source before) : c.Cuts source := by
  obtain ⟨htext, hplace⟩ := h.lexeme
  constructor
  · intro front left hleft
    refine ⟨before ++ front, Span.cutAt?_eq_some_iff.2 ⟨?_, ?_⟩⟩
    · rw [h.text_eq, hleft, List.append_assoc]
    · rw [h.position_eq, ← Position.after_append, Position.offset_origin_after]
  · rw [hplace, htext]
    exact Span.slice?_of_append _ _ _

theorem offset_le_start (c : Cursor) : c.position.offset ≤ c.lexeme.place.start := by
  simp only [lexeme, Position.to, start, Position.offset_after]
  omega

theorem start_le_offset_next (c : Cursor) : c.lexeme.place.start ≤ c.next.position.offset := by
  simp only [lexeme, Position.to, next, stop, Position.offset_after]
  omega

theorem offset_le_start_of_mem_walk {n : Nat} {c : Cursor} {l : Lexeme Span} (h : l ∈ c.walk n) :
    c.position.offset ≤ l.place.start := by
  induction n generalizing c with
  | zero => cases h
  | succ n ih =>
    rcases List.mem_cons.1 h with rfl | h
    · exact c.offset_le_start
    · calc c.position.offset ≤ c.lexeme.place.start := c.offset_le_start
        _ ≤ c.next.position.offset := c.start_le_offset_next
        _ ≤ l.place.start := ih h

/-- Each step reads behind what the steps before it have read. -/
theorem walk_pairwise (n : Nat) (c : Cursor) :
    (c.walk n).Pairwise fun l m => l.place.stop ≤ m.place.start := by
  induction n generalizing c with
  | zero => exact .nil
  | succ n ih => exact .cons (fun m hm => offset_le_start_of_mem_walk hm) (ih c.next)

/-- However a source is read, by any requests and on behind faults: every answer fits the source, is
something unless it is the end of the input, and stands behind those before it. The reader takes step
after step, and wherever it stands, the source can be cut there and everywhere behind. -/
theorem run_in_place (source : String) (requests : List Request) :
    let answers := ((ofSource source).run requests).1
    (∀ l ∈ answers, Lexeme.InPlace source l) ∧
      (answers.Pairwise fun l m => l.place.stop ≤ m.place.start) ∧
      ∃ steps, ((ofSource source).run requests).2 = (ofSource source).ahead steps ∧
        answers.Sublist ((ofSource source).walk steps) ∧
        ∀ n ≤ steps, ((ofSource source).ahead n).Cuts source := by
  intro answers
  obtain ⟨steps, hanswers, hlast⟩ := run_walk (ofSource source) requests
  have hstands := (standsBehind_ofSource source).ahead
  refine ⟨?_, (walk_pairwise steps _).sublist hanswers, steps, hlast, hanswers, ?_⟩
  · intro l hl
    obtain ⟨n, rfl⟩ := exists_ahead_of_mem_walk (hanswers.subset hl)
    obtain ⟨before, hbefore⟩ := hstands n
    exact hbefore.inPlace
  · intro n _
    obtain ⟨before, hbefore⟩ := hstands n
    exact hbefore.cuts

end Cursor

end ModelIdl
