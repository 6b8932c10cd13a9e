import ModelIdl.Proofs.Token.Requests

/-!
# ModelIdl.Proofs.Token.Progress

Reading goes forward. A step moves over at least one character, faults included, or it finds the end of the
input, and then all further steps find it too (`Cursor.movesOn_or_staysAtEnd`). So the characters that are left
bound the steps to the end, however many faults there are on the way.
-/

namespace ModelIdl

namespace Cursor

/-- The next step goes forward, over some characters that are left. -/
def MovesOn (c : Cursor) : Prop :=
  ∃ taken, taken ≠ [] ∧ c.text = taken ++ c.next.text ∧ c.next.position = c.position.after taken

/-- All steps from here on find the same end of the input, which is the end of the source, and none of them
goes on behind it or is an item. -/
structure StaysAtEnd (source : String) (c : Cursor) : Prop where
  value : c.lexeme.value = .ok .endOfInput
  place : c.lexeme.place.start = source.utf8ByteSize ∧ c.lexeme.place.stop = source.utf8ByteSize
  lexeme : ∀ n, (c.ahead n).lexeme = c.lexeme
  position : ∀ n, (c.ahead (n + 1)).position.offset = source.utf8ByteSize
  text : ∀ n, (c.ahead (n + 1)).text = []
  item : ∀ n, (c.ahead n).answer .item = []

/-- A step takes the gap and the lexeme. -/
theorem position_next (c : Cursor) :
    c.next.position = c.position.after ((Gap.split c.text).1 ++ c.scan.lexeme) := by
  simp only [next, stop, start, Position.after_append]

theorem movesOn_of_ne {c : Cursor} (h : c.lexeme.value ≠ .ok .endOfInput) : c.MovesOn := by
  refine ⟨(Gap.split c.text).1 ++ c.scan.lexeme, ?_, c.text_eq.symm, c.position_next⟩
  exact List.append_ne_nil_of_right_ne_nil _ (Scan.token_lexeme_ne_nil (left_ne_nil h))

/-! ### The end of the input -/

/-- Where no text is left, a step finds the end of the input and stays where it is. -/
theorem step_of_text_nil {c : Cursor} (h : c.text = []) :
    c.lexeme = ⟨.ok .endOfInput, c.position.to c.position⟩ ∧ c.next = c := by
  obtain ⟨position, text⟩ := c
  obtain rfl : text = [] := h
  have hsplit : Gap.split [] = ([], []) := by rw [Gap.split]
  simp only [lexeme, next, stop, start, scan, hsplit, Scan.token, Position.after_nil, and_self]

theorem ahead_of_text_nil {c : Cursor} (h : c.text = []) (n : Nat) : c.ahead n = c := by
  induction n with
  | zero => rfl
  | succ n ih => rw [ahead, (step_of_text_nil h).2, ih]

/-- A step that finds the end of the input leaves the cursor there. -/
theorem lexeme_next_of_endOfInput {c : Cursor} (h : c.lexeme.value = .ok .endOfInput) :
    c.next.lexeme = c.lexeme := by
  have hleft : (Gap.split c.text).2 = [] := Scan.eq_nil_of_token_endOfInput h
  have hscan : c.scan = ⟨.ok .endOfInput, [], []⟩ := by
    rw [scan, hleft]
    rfl
  have hstop : c.stop = c.start := by rw [stop, hscan, Position.after_nil]
  rw [(step_of_text_nil (c.next_text_of_endOfInput h)).1, lexeme, hscan, next, hstop]

variable {source : String} {before : List Char}

theorem StandsBehind.staysAtEnd {c : Cursor} (h : c.StandsBehind source before)
    (hend : c.lexeme.value = .ok .endOfInput) : c.StaysAtEnd source := by
  have hnil := c.next_text_of_endOfInput hend
  have hahead (n : Nat) : c.ahead (n + 1) = c.next := ahead_of_text_nil hnil n
  have hlexeme (n : Nat) : (c.ahead n).lexeme = c.lexeme := by
    cases n with
    | zero => rfl
    | succ n => rw [hahead, lexeme_next_of_endOfInput hend]
  have hplace := h.inPlace.atEnd hend
  refine ⟨hend, hplace, hlexeme, fun n => ?_, fun n => ?_, fun n => ?_⟩
  · rw [hahead]
    exact hplace.2
  · rw [hahead, hnil]
  · simp only [answer, hlexeme, hend]

/-- Every step goes forward, or has come to the end of the input for good. -/
theorem StandsBehind.movesOn_or_staysAtEnd {c : Cursor} (h : c.StandsBehind source before) :
    c.MovesOn ∨ c.StaysAtEnd source := by
  by_cases hend : c.lexeme.value = .ok .endOfInput
  · exact .inr (h.staysAtEnd hend)
  · exact .inl (movesOn_of_ne hend)

/-! ### How many steps there are -/

/-- Some step finds the end of the input, after no more steps than characters are left. -/
theorem exists_endOfInput (c : Cursor) :
    ∃ n ≤ c.text.length, (c.ahead n).lexeme.value = .ok .endOfInput := by
  generalize hlength : c.text.length = length
  induction length using Nat.strongRecOn generalizing c with
  | ind length ih =>
    by_cases hend : c.lexeme.value = .ok .endOfInput
    · exact ⟨0, Nat.zero_le _, hend⟩
    · have hlt := c.length_next_lt hend
      rw [hlength] at hlt
      obtain ⟨n, hn, hfound⟩ := ih _ hlt c.next rfl
      exact ⟨n + 1, by omega, hfound⟩

/-- A stream is read within one step more than characters are left. -/
theorem streamWithin_of_length_lt {steps : Nat} {c : Cursor} (h : c.text.length < steps) :
    streamWithin steps c = some c.stream.1 := by
  induction steps generalizing c with
  | zero => exact absurd h (Nat.not_lt_zero _)
  | succ steps ih =>
    rw [streamWithin]
    split
    · rename_i hfault
      rw [stream_of_fault hfault]
    · rename_i hend
      rw [stream_of_end hend]
    · rename_i t hne htoken
      have hlt := c.length_next_lt (by rw [htoken]; simpa using hne)
      rw [ih (by omega), stream_of_token htoken hne]
      rfl

/-- A stream has no more tokens than characters are left. -/
theorem length_tokens_le (c : Cursor) : c.stream.1.tokens.length ≤ c.text.length := by
  induction c using stream.induct with
  | case1 c fault hfault =>
    rw [stream_of_fault hfault]
    exact Nat.zero_le _
  | case2 c hend =>
    rw [stream_of_end hend]
    exact Nat.zero_le _
  | case3 c token htoken hend _ _ _ ih =>
    have hlt := c.length_next_lt (by rw [htoken]; simpa using hend)
    rw [stream_of_token htoken hend]
    simp only [TokenStream.cons, List.length_cons]
    omega

/-- From here on, reading goes forward and comes to the end of the source: the next step goes forward, or it
and all further ones find the end of the input. One of the steps finds it, after no more of them than characters
are left, and the tokens that are left are read within one step more. -/
structure ComesToEnd (source : String) (c : Cursor) : Prop where
  step : c.MovesOn ∨ c.StaysAtEnd source
  ends : ∃ n ≤ c.text.length, (c.ahead n).StaysAtEnd source
  stream : streamWithin (c.text.length + 1) c = some c.stream.1

theorem StandsBehind.comesToEnd {c : Cursor} (h : c.StandsBehind source before) : c.ComesToEnd source := by
  obtain ⟨n, hn, hend⟩ := c.exists_endOfInput
  obtain ⟨front, hfront⟩ := h.ahead n
  exact ⟨h.movesOn_or_staysAtEnd, ⟨n, hn, hfront.staysAtEnd hend⟩,
    streamWithin_of_length_lt (Nat.lt_succ_self _)⟩

/-- However a source has been read so far, by any requests and on behind faults, reading comes to its end. -/
theorem run_comesToEnd (source : String) (requests : List Request) :
    (((ofSource source).run requests).2).ComesToEnd source := by
  obtain ⟨steps, -, hlast⟩ := run_walk (ofSource source) requests
  obtain ⟨before, hbefore⟩ := (standsBehind_ofSource source).ahead steps
  rw [hlast]
  exact hbefore.comesToEnd

end Cursor

end ModelIdl
