import ModelIdl.Proofs.Token.Spelling
import ModelIdl.Token.Cursor

/-!
# ModelIdl.Proofs.Token.Streams

Streams of tokens, put together and taken apart. Design points:

* **One line feed is enough.** A text that reads to its end, a line feed, and another text read as the
  tokens of the one and then those of the other (`stream_append_newline`): no token, comment or gap
  reaches over that line feed.
* **Every list of spelled tokens is a source.** Spellings on lines of their own read as their tokens
  (`exists_source_of_spelled`), and a stream holds no tokens but spelled ones (`spelled_of_mem_stream`).
-/

namespace ModelIdl

variable {σ : Type}

/-! ### Gaps -/

namespace Gap

theorem closeComment?_append {text inside behind : List Char}
    (h : closeComment? text = some (inside, behind)) (more : List Char) :
    closeComment? (text ++ more) = some (inside, behind ++ more) := by
  fun_induction closeComment? text generalizing inside behind with
  | case1 => cases h
  | case2 rest =>
    cases h
    rfl
  | case3 c rest hopen ih =>
    obtain ⟨⟨body, tail⟩, hclose, ⟨⟩⟩ := Option.map_eq_some_iff.1 h
    rw [List.cons_append, closeComment?.eq_3 c _ ?_, ih hclose]
    · rfl
    · rintro rest' rfl heq
      cases rest with
      | nil => simp [closeComment?] at hclose
      | cons d rest => exact hopen rest rfl (by rw [(List.cons.inj heq).1])

/-- A line comment ends at the first line feed, so at the latest at one behind the text. -/
theorem lineComment_append_newline (text more : List Char) :
    lineComment (text ++ '\n' :: more) =
      ((lineComment text).1, (lineComment text).2 ++ '\n' :: more) := by
  induction text with
  | nil => simp [lineComment]
  | cons c text ih =>
    unfold lineComment at ih ⊢
    by_cases hc : c = '\n'
    · simp [hc]
    · simpa [hc] using ih

/-- A text that does not start with a character other than the line feed does not do so with a line feed
behind it. -/
theorem append_newline_ne_cons {d : Char} {text more : List Char} (hd : d ≠ '\n')
    (h : ∀ rest, text ≠ d :: rest) (rest : List Char) : text ++ '\n' :: more ≠ d :: rest := by
  cases text with
  | nil => exact fun heq => hd (List.cons.inj heq).1.symm
  | cons c text => exact fun heq => h text (by rw [(List.cons.inj heq).1])

/-- A line feed and a text behind a text leave the gap at its front as it is, unless that gap is all of
it: then the gap goes on through the line feed. -/
theorem split_append_newline (text more : List Char)
    (hclosed : ∀ rest, (split text).2 ≠ '/' :: '*' :: rest) :
    split (text ++ '\n' :: more) =
      if (split text).2 = [] then ((split text).1 ++ '\n' :: (split more).1, (split more).2)
      else ((split text).1, (split text).2 ++ '\n' :: more) := by
  fun_induction split text with
  | case1 rest gap left hsplit ih =>
    rw [hsplit] at ih
    rw [List.cons_append, List.cons_append, split, lineComment_append_newline, ih hclosed]
    by_cases hleft : left = [] <;> simp [hleft]
  | case2 rest inside behind hclose gap left hsplit ih =>
    rw [hsplit] at ih
    rw [List.cons_append, List.cons_append, split]
    split
    · rename_i inside' behind' hclose'
      obtain ⟨rfl, rfl⟩ : inside = inside' ∧ behind ++ '\n' :: more = behind' := by
        simpa [closeComment?_append hclose] using hclose'
      rw [ih hclosed]
      by_cases hleft : left = [] <;> simp [hleft]
    · rename_i hclose'
      simp [closeComment?_append hclose] at hclose'
  | case3 rest => exact absurd rfl (hclosed rest)
  | case4 c rest hline hblock hblank gap left hsplit ih =>
    rw [hsplit] at ih
    rw [List.cons_append, split.eq_3 c _
      (fun r hc => append_newline_ne_cons (by decide) (fun r' => hline r' hc) r)
      (fun r hc => append_newline_ne_cons (by decide) (fun r' => hblock r' hc) r), if_pos hblank,
      ih hclosed]
    by_cases hleft : left = [] <;> simp [hleft]
  | case5 c rest hline hblock hblank =>
    rw [List.cons_append, split.eq_3 c _
      (fun r hc => append_newline_ne_cons (by decide) (fun r' => hline r' hc) r)
      (fun r hc => append_newline_ne_cons (by decide) (fun r' => hblock r' hc) r), if_neg hblank]
    simp
  | case6 =>
    have hblank : Text.isBlank '\n' = true := by decide
    rw [List.nil_append, split.eq_3 '\n' more (fun _ hc => absurd hc (by decide))
      (fun _ hc => absurd hc (by decide)), if_pos hblank]
    simp

end Gap

/-! ### Steps of a stream -/

namespace Cursor

theorem stream_of_fault {c : Cursor} {fault : Fault} (h : c.lexeme.value = .error fault) :
    c.stream = (⟨[], .faulty fault c.lexeme.place⟩, c.next) := by
  rw [stream]
  split
  · rename_i heq
    rw [h] at heq
    cases heq
    rfl
  · rename_i heq
    rw [h] at heq
    cases heq

theorem stream_of_end {c : Cursor} (h : c.lexeme.value = .ok .endOfInput) :
    c.stream = (⟨[], .finished c.lexeme.place⟩, c.next) := by
  rw [stream]
  split
  · rename_i heq
    rw [h] at heq
    cases heq
  · rename_i heq
    rw [h] at heq
    cases heq
    rfl

theorem stream_of_token {c : Cursor} {t : Token} (h : c.lexeme.value = .ok t)
    (hne : t ≠ .endOfInput) :
    c.stream = (c.next.stream.1.cons ⟨t, c.lexeme.place⟩, c.next.stream.2) := by
  rw [stream]
  split
  · rename_i heq
    rw [h] at heq
    cases heq
  · rename_i heq
    rw [h] at heq
    cases heq
    rw [dif_neg hne]

/-- Reads on for at most some steps. Unlike the stream, which goes on as long as there is text, this
computes by the number of steps. -/
def streamWithin : Nat → Cursor → Option (TokenStream Span)
  | 0, _ => none
  | steps + 1, c =>
    match c.lexeme.value with
    | .error fault => some ⟨[], .faulty fault c.lexeme.place⟩
    | .ok .endOfInput => some ⟨[], .finished c.lexeme.place⟩
    | .ok t => (streamWithin steps c.next).map (·.cons ⟨t, c.lexeme.place⟩)

/-- A stream that is read within some steps is the stream. -/
theorem stream_of_streamWithin {steps : Nat} {c : Cursor} {s : TokenStream Span}
    (h : streamWithin steps c = some s) : c.stream.1 = s := by
  induction steps generalizing c s with
  | zero => cases h
  | succ steps ih =>
    rw [streamWithin] at h
    split at h
    · rename_i hfault
      cases h
      rw [stream_of_fault hfault]
    · rename_i hend
      cases h
      rw [stream_of_end hend]
    · rename_i t hend htoken
      obtain ⟨rest, hrest, rfl⟩ := Option.map_eq_some_iff.1 h
      rw [stream_of_token htoken hend]
      simp only [ih hrest]

/-- A stream depends on its first lexeme and on what is behind that. -/
theorem stream_congr {c d : Cursor} (hlexeme : c.lexeme = d.lexeme) (hnext : c.next = d.next) :
    c.stream = d.stream := by
  cases h : d.lexeme.value with
  | error fault =>
    rw [stream_of_fault h, stream_of_fault (by rw [hlexeme]; exact h), hlexeme, hnext]
  | ok t =>
    by_cases hend : t = .endOfInput
    · subst hend
      rw [stream_of_end h, stream_of_end (by rw [hlexeme]; exact h), hlexeme, hnext]
    · rw [stream_of_token h hend, stream_of_token (by rw [hlexeme]; exact h) hend, hlexeme, hnext]

/-- A step that finds a token takes a spelling of it, and what is left does not go on with it. -/
theorem spells_of_lexeme {c : Cursor} {t : Token} (h : c.lexeme.value = .ok t)
    (hne : t ≠ .endOfInput) : Spells c.scan.lexeme t ∧ t.EndsAt c.next.text :=
  spells_of_token h (left_ne_nil_of_token h hne)

/-- Every token of a stream is spelled. -/
theorem spelled_of_mem_stream (c : Cursor) :
    ∀ t ∈ c.stream.1.tokens, ∃ lexeme, Spells lexeme t.value := by
  induction c using stream.induct with
  | case1 c fault h =>
    intro t ht
    rw [stream_of_fault h] at ht
    cases ht
  | case2 c h =>
    intro t ht
    rw [stream_of_end h] at ht
    cases ht
  | case3 c token h hend _ _ _ ih =>
    intro t ht
    rw [stream_of_token h hend] at ht
    rcases List.mem_cons.1 ht with rfl | ht
    · exact ⟨_, (spells_of_lexeme h hend).1⟩
    · exact ih t ht

end Cursor

/-! ### Items -/

/-- A token as an item. -/
def Placed.found (t : Placed σ Token) : Lexeme σ :=
  ⟨.ok t.value, t.place⟩

/-- The item behind the tokens of a stream. -/
def Ending.item : Ending σ → Lexeme σ
  | .finished place => ⟨.ok .endOfInput, place⟩
  | .faulty fault place => ⟨.error fault, place⟩

/-- Everything that a stream yields, the end of the input or the fault at the end of it included. -/
def TokenStream.items (s : TokenStream σ) : List (Lexeme σ) :=
  s.tokens.map Placed.found ++ [s.ending.item]

/-- The items are what is read step by step, until there is the end of the input or a fault. -/
theorem Cursor.items_stream (c : Cursor) :
    c.stream.1.items = c.lexeme ::
      match c.lexeme.value with
      | .error _ | .ok .endOfInput => []
      | .ok _ => c.next.stream.1.items := by
  obtain ⟨value, hvalue⟩ : ∃ value, c.lexeme.value = value := ⟨_, rfl⟩
  have hlexeme : c.lexeme = ⟨value, c.lexeme.place⟩ := by rw [← hvalue]
  rw [hvalue]
  cases value with
  | error fault =>
    rw [Cursor.stream_of_fault hvalue, hlexeme]
    rfl
  | ok t =>
    by_cases hend : t = .endOfInput
    · subst hend
      rw [Cursor.stream_of_end hvalue, hlexeme]
      rfl
    · rw [Cursor.stream_of_token hvalue hend, hlexeme]
      split
      case h_1 heq => cases heq
      case h_2 heq => exact absurd (Except.ok.inj heq) hend
      case h_3 => rfl

/-! ### One text behind another -/

/-- A stream with further tokens in front. -/
def TokenStream.prepend {σ : Type} (ts : List (Placed σ Token)) (s : TokenStream σ) : TokenStream σ :=
  ⟨ts ++ s.tokens, s.ending⟩

namespace Cursor

/-- A step that finds a token finds it too where a line feed and a text follow, and leaves these. -/
theorem step_append_newline {c : Cursor} {t : Token} (h : c.lexeme.value = .ok t)
    (hne : t ≠ .endOfInput) (text : List Char) :
    (⟨c.position, c.text ++ '\n' :: text⟩ : Cursor).lexeme = c.lexeme ∧
      (⟨c.position, c.text ++ '\n' :: text⟩ : Cursor).next =
        ⟨c.next.position, c.next.text ++ '\n' :: text⟩ := by
  have hleft := left_ne_nil_of_token h hne
  have hclosed : ∀ rest, (Gap.split c.text).2 ≠ '/' :: '*' :: rest := by
    intro rest hopen
    rw [lexeme, scan, hopen] at h
    cases h
  have hsplit := Gap.split_append_newline c.text text hclosed
  rw [if_neg hleft] at hsplit
  obtain ⟨hspells, hends⟩ := spells_of_lexeme h hne
  -- the scan takes the same lexeme, for it does not go on behind the line feed either
  have hscan : (⟨c.position, c.text ++ '\n' :: text⟩ : Cursor).scan =
      ⟨.ok t, c.scan.lexeme, c.next.text ++ '\n' :: text⟩ := by
    have htext : (Gap.split c.text).2 = c.scan.lexeme ++ c.next.text := (Scan.token_append _).symm
    rw [scan, hsplit, htext, List.append_assoc]
    exact token_of_spells hspells (endsAt_append_newline hends text)
  have hstart : (⟨c.position, c.text ++ '\n' :: text⟩ : Cursor).start = c.start := by
    rw [start, hsplit, start]
  have houtcome : c.scan.outcome = .ok t := h
  constructor
  · simp only [lexeme, stop, hscan, hstart, houtcome]
  · simp only [next, stop, hscan, hstart]

/-- At its end, a text with a line feed and a text behind it is read as that text. -/
theorem stream_append_newline_of_end {c : Cursor} (h : c.lexeme.value = .ok .endOfInput)
    (text : List Char) : (⟨c.position, c.text ++ '\n' :: text⟩ : Cursor).stream =
      (⟨c.position.after (c.text ++ ['\n']), text⟩ : Cursor).stream := by
  have hnil : (Gap.split c.text).2 = [] := Scan.eq_nil_of_token_endOfInput h
  have hgap : (Gap.split c.text).1 = c.text := by
    have := Gap.split_append c.text
    rwa [hnil, List.append_nil] at this
  have hsplit := Gap.split_append_newline c.text text (by simp [hnil])
  rw [if_pos hnil, hgap] at hsplit
  have hscan : (⟨c.position, c.text ++ '\n' :: text⟩ : Cursor).scan =
      (⟨c.position.after (c.text ++ ['\n']), text⟩ : Cursor).scan := by
    rw [scan, hsplit, scan]
  have hstart : (⟨c.position, c.text ++ '\n' :: text⟩ : Cursor).start =
      (⟨c.position.after (c.text ++ ['\n']), text⟩ : Cursor).start := by
    rw [start, hsplit, start]
    simp
  apply stream_congr
  · simp only [lexeme, stop, hscan, hstart]
  · simp only [next, stop, hscan, hstart]

/-- A text that is read to its end, a line feed, and a further text are read as the tokens of the one
and then the stream of the other. -/
theorem stream_append_newline {c : Cursor} {ts : List (Placed Span Token)} {place : Span}
    (h : c.stream.1 = ⟨ts, .finished place⟩) (text : List Char) :
    (⟨c.position, c.text ++ '\n' :: text⟩ : Cursor).stream.1 =
      (⟨c.position.after (c.text ++ ['\n']), text⟩ : Cursor).stream.1.prepend ts := by
  induction c using stream.induct generalizing ts with
  | case1 c fault hfault =>
    rw [stream_of_fault hfault] at h
    cases h
  | case2 c hend =>
    rw [stream_of_end hend] at h
    cases h
    rw [stream_append_newline_of_end hend]
    rfl
  | case3 c token htoken hend _ _ _ ih =>
    rw [stream_of_token htoken hend] at h
    obtain ⟨hlexeme, hnext⟩ := step_append_newline htoken hend text
    -- the place behind the whole text is that behind what the first step leaves
    have hplace : c.next.position.after (c.next.text ++ ['\n']) =
        c.position.after (c.text ++ ['\n']) := by
      rw [← c.text_eq]
      simp [next, stop, start]
    cases hrest : c.next.stream.1 with
    | mk us ending =>
      rw [hrest] at h
      cases h
      have hih := ih hrest
      rw [hplace] at hih
      rw [stream_of_token (by rw [hlexeme]; exact htoken) hend, hnext, hlexeme]
      simp only [hih]
      rfl

end Cursor

/-! ### Sources for tokens -/

/-- No character that a name goes on with is blank. -/
theorem isBlank_eq_false_of_continuesName {c : Char} (h : Scan.continuesName c = true) :
    Text.isBlank c = false := by
  have htables : ∀ r ∈ Text.blankRanges, ∀ i < r.last - r.first + 1,
      Text.covers Text.alphabeticRanges (r.first + i) = false ∧
        Text.covers Text.numericRanges (r.first + i) = false ∧ r.first + i ≠ '_'.toNat := by
    decide +kernel
  rw [← Bool.not_eq_true]
  intro hblank
  obtain ⟨r, hr, hholds⟩ := Text.exists_holds_of_covers hblank
  simp only [Text.CodeRange.holds, Bool.and_eq_true, decide_eq_true_eq] at hholds
  obtain ⟨halpha, hnumeric, hscore⟩ := htables r hr (c.toNat - r.first) (by omega)
  rw [Nat.add_sub_cancel' hholds.1.1] at halpha hnumeric hscore
  simp only [Scan.continuesName, Text.isAlphabetic, Text.isNumeric, halpha, hnumeric, Bool.false_or,
    beq_iff_eq] at h
  exact hscore (by rw [h])

theorem continuesName_of_startsName {c : Char} (h : Scan.startsName c = true) :
    Scan.continuesName c = true := by
  simp only [Scan.startsName, Bool.or_eq_true] at h
  simp only [Scan.continuesName, Bool.or_eq_true]
  exact h.imp_left .inl

theorem isBlank_eq_false_of_isDigit {c : Char} (h : c.isDigit = true) : Text.isBlank c = false := by
  obtain ⟨hlow, hhigh⟩ := toNat_of_isDigit h
  rw [← Bool.not_eq_true]
  intro hblank
  obtain ⟨r, hr, hholds⟩ := Text.exists_holds_of_covers hblank
  simp only [Text.CodeRange.holds, Bool.and_eq_true, decide_eq_true_eq] at hholds
  have hranges : ∀ r ∈ Text.blankRanges, r.last < 48 ∨ 57 < r.first := by decide
  have := hranges r hr
  omega

/-- The end of the input has no spelling, and no name without characters has one. -/
theorem ne_of_spells {lexeme : List Char} {t : Token} (h : Spells lexeme t) :
    t ≠ .endOfInput ∧ t ≠ .name "" := by
  cases h with
  | symbol s => simp
  | string form => simp
  | numeral form value =>
    unfold Numeral.token? at value
    split at value
    · cases value
      simp
    · obtain ⟨_, -, rfl⟩ := Option.map_eq_some_iff.1 value
      simp
  | word first rest =>
    unfold Scan.wordToken
    split <;> simp

/-- A spelling starts with a character that no gap starts with. -/
theorem Spells.first {lexeme : List Char} {t : Token} (h : Spells lexeme t) :
    ∃ c cs, lexeme = c :: cs ∧ Text.isBlank c = false ∧ c ≠ '/' := by
  cases h with
  | symbol s => exact ⟨s.char, [], rfl, by cases s <;> decide⟩
  | string form => exact ⟨'"', _, rfl, by decide⟩
  | @numeral n t form value =>
    obtain ⟨d, ds, hds⟩ := List.exists_cons_of_ne_nil form.whole_ne_nil
    have hd : d.isDigit = true := form.whole_digits d (by simp [hds])
    have hslash : d ≠ '/' := ne_of_holds hd (by decide)
    cases hsign : n.negative with
    | true => exact ⟨'-', n.unsignedText, by simp [Numeral.text_eq, hsign], by decide⟩
    | false =>
      obtain ⟨us, hus⟩ : ∃ us, n.unsignedText = d :: us := by simp [Numeral.unsignedText, hds]
      exact ⟨d, us, by simp [Numeral.text_eq, hsign, hus], isBlank_eq_false_of_isDigit hd, hslash⟩
  | @word c cs first rest =>
    exact ⟨c, cs, rfl, isBlank_eq_false_of_continuesName (continuesName_of_startsName first),
      ne_of_holds first (by decide)⟩

/-- A text that starts with no gap is not cut. -/
theorem split_of_first {c : Char} (hblank : Text.isBlank c = false) (hslash : c ≠ '/')
    (rest : List Char) : Gap.split (c :: rest) = ([], c :: rest) := by
  rw [Gap.split.eq_3 c _ (fun _ hc => absurd hc hslash) (fun _ hc => absurd hc hslash), hblank]
  rfl

/-- No gap stands in front of a spelling. -/
theorem split_append_of_spells {lexeme : List Char} {t : Token} (h : Spells lexeme t)
    (more : List Char) : Gap.split (lexeme ++ more) = ([], lexeme ++ more) := by
  obtain ⟨c, cs, rfl, hblank, hslash⟩ := h.first
  exact split_of_first hblank hslash _

/-- A step over a gap finds what the scan behind the gap does, and stops where that does. -/
theorem Cursor.step_of_scan {text lexeme more : List Char} {outcome : Except Fault Token}
    (gap : List Char) (hgap : Gap.split (gap ++ text) = (gap, text))
    (hscan : Scan.token text = ⟨outcome, lexeme, more⟩) (p : Position) :
    (⟨p, gap ++ text⟩ : Cursor).lexeme =
        ⟨outcome, (p.after gap).to ((p.after gap).after lexeme)⟩ ∧
      (⟨p, gap ++ text⟩ : Cursor).next = ⟨(p.after gap).after lexeme, more⟩ := by
  constructor
  · simp only [Cursor.lexeme, stop, start, scan, hgap, hscan]
  · simp only [next, stop, start, scan, hgap, hscan]

/-- A step over a gap and a spelling finds the token of that spelling, if the text behind does not go on
with it. -/
theorem Cursor.step_of_spells {lexeme more : List Char} {t : Token} (gap : List Char)
    (hgap : Gap.split (gap ++ lexeme ++ more) = (gap, lexeme ++ more)) (hspells : Spells lexeme t)
    (hends : t.EndsAt more) (p : Position) :
    (⟨p, gap ++ lexeme ++ more⟩ : Cursor).lexeme =
        ⟨.ok t, (p.after gap).to ((p.after gap).after lexeme)⟩ ∧
      (⟨p, gap ++ lexeme ++ more⟩ : Cursor).next = ⟨(p.after gap).after lexeme, more⟩ := by
  rw [List.append_assoc] at hgap ⊢
  exact step_of_scan gap hgap (token_of_spells hspells hends) p

/-- A spelling alone is read as its token. -/
theorem Cursor.stream_of_spells {lexeme : List Char} {t : Token} (h : Spells lexeme t) (p : Position) :
    ∃ here place, (⟨p, lexeme⟩ : Cursor).stream.1 = ⟨[⟨t, here⟩], .finished place⟩ := by
  have hends : t.EndsAt [] := by cases t <;> simp [Token.EndsAt]
  obtain ⟨hlexeme, hnext⟩ := step_of_spells [] (split_append_of_spells h []) h hends p
  rw [List.nil_append, List.append_nil] at hlexeme hnext
  have hlast : (⟨p, lexeme⟩ : Cursor).next.lexeme.value = .ok .endOfInput := by
    rw [hnext, Cursor.lexeme, scan, Gap.split]
    rfl
  rw [stream_of_token (by rw [hlexeme]) (ne_of_spells h).1, stream_of_end hlast]
  exact ⟨_, _, rfl⟩

/-- Any tokens that have spellings are the tokens of some source. -/
theorem exists_source_of_spelled {kinds : List Token} (h : ∀ t ∈ kinds, ∃ lexeme, Spells lexeme t) :
    ∃ source ts place, TokenStream.ofSource source = ⟨ts, .finished place⟩ ∧
      ts.map (·.value) = kinds := by
  suffices hcursor : ∃ text, ∀ p : Position, ∃ ts place,
      (⟨p, text⟩ : Cursor).stream.1 = ⟨ts, .finished place⟩ ∧ ts.map (·.value) = kinds by
    obtain ⟨text, htext⟩ := hcursor
    obtain ⟨ts, place, hstream, hkinds⟩ := htext .origin
    refine ⟨String.ofList text, ts, place, ?_, hkinds⟩
    rw [TokenStream.ofSource, Cursor.ofSource, String.toList_ofList, hstream]
  induction kinds with
  | nil =>
    refine ⟨[], fun p => ?_⟩
    have hend : (⟨p, []⟩ : Cursor).lexeme.value = .ok .endOfInput := by
      rw [Cursor.lexeme, Cursor.scan, Gap.split]
      rfl
    rw [Cursor.stream_of_end hend]
    exact ⟨[], _, rfl, rfl⟩
  | cons t kinds ih =>
    obtain ⟨lexeme, hlexeme⟩ := h t (.head _)
    obtain ⟨text, htext⟩ := ih fun u hu => h u (.tail _ hu)
    -- each spelling stands on a line of its own
    refine ⟨lexeme ++ '\n' :: text, fun p => ?_⟩
    obtain ⟨here, there, hfirst⟩ := Cursor.stream_of_spells hlexeme p
    obtain ⟨ts, place, hrest, hkinds⟩ := htext (p.after (lexeme ++ ['\n']))
    refine ⟨⟨t, here⟩ :: ts, place, ?_, by simp [hkinds]⟩
    rw [Cursor.stream_append_newline hfirst text, hrest]
    rfl

end ModelIdl
