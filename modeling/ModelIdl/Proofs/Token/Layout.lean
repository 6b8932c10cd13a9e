import Mathlib
import ModelIdl.Proofs.Token.Gaps
import ModelIdl.Proofs.Token.Requests

/-!
# ModelIdl.Proofs.Token.Layout

Texts as lexemes with gaps around them. Design points:

* **A layout is a text taken apart**, with a gap in front of each lexeme and one behind the last. It
  `Writes` tokens if the lexemes are spelled so and none goes on in what stands behind it.
* **Reading is laying out backwards.** A text that is laid out reads as the tokens that the layout
  writes, where the layout places them (`Cursor.stream_of_layout`), and a text that reads to its end is
  laid out so (`Cursor.exists_layout`).
* **Lexemes are the longest.** Tokens tile their source, each lexeme is read alone as its token, and
  nothing longer from where it starts is one token (`Cursor.readAll_tiles`).
-/

namespace ModelIdl

/-- Lexemes with gaps around them: the last gap, or a gap, a lexeme, and what stands behind it. -/
inductive Layout where
  | last (gap : List Char)
  | item (gap lexeme : List Char) (behind : Layout)

namespace Layout

/-- The whole text. -/
def text : Layout → List Char
  | last gap => gap
  | item gap lexeme behind => gap ++ lexeme ++ behind.text

/-- The lexemes in order. -/
def lexemes : Layout → List (List Char)
  | last _ => []
  | item _ lexeme behind => lexeme :: behind.lexemes

/-- The places of the lexemes if the text begins at a position. -/
def places (p : Position) : Layout → List Span
  | last _ => []
  | item gap lexeme behind =>
    (p.after gap).to ((p.after gap).after lexeme) :: behind.places ((p.after gap).after lexeme)

/-- All gaps are gaps. Only the last may end in a line comment without a line feed. -/
def Gapped : Layout → Prop
  | last gap => GapForm True gap
  | item gap _ behind => GapForm False gap ∧ behind.Gapped

/-- The lexemes spell the tokens, and none of them goes on in the text behind it. -/
def Writes : Layout → List Token → Prop
  | last _, [] => True
  | item _ lexeme behind, t :: ts => Spells lexeme t ∧ t.EndsAt behind.text ∧ behind.Writes ts
  | _, _ => False

/-- The places of the lexemes cut them out of the text. -/
theorem slice?_places (l : Layout) (front : List Char) :
    (l.places (Position.origin.after front)).map (fun s => s.slice? (front ++ l.text)) =
      l.lexemes.map some := by
  induction l generalizing front with
  | last gap => rfl
  | item gap lexeme behind ih =>
    have hfirst := Span.slice?_of_append (front ++ gap) lexeme behind.text
    have hrest := ih (front ++ gap ++ lexeme)
    simp only [Position.after_append] at hfirst hrest
    simp only [places, text, lexemes, List.map_cons, List.append_assoc] at hfirst hrest ⊢
    rw [hfirst, hrest]

/-- Around each token's lexeme there is text, and the lexeme does not go on in the text behind it. -/
theorem exists_around_of_mem {l : Layout} {p : Position} {ts : List (Placed Span Token)}
    (hwrites : l.Writes (ts.map (·.value))) (hplaces : ts.map (·.place) = l.places p)
    {t : Placed Span Token} (ht : t ∈ ts) :
    ∃ before lexeme behind, l.text = before ++ lexeme ++ behind ∧ Spells lexeme t.value ∧
      t.value.EndsAt behind ∧ t.place = (p.after before).to (p.after (before ++ lexeme)) := by
  induction l generalizing p ts with
  | last gap =>
    rw [places, List.map_eq_nil_iff] at hplaces
    rw [hplaces] at ht
    cases ht
  | item gap lexeme behind ih =>
    cases ts with
    | nil => cases ht
    | cons u us =>
      obtain ⟨hspells, hends, hrest⟩ := hwrites
      obtain ⟨hplace, hmore⟩ := List.cons.inj hplaces
      rcases List.mem_cons.1 ht with rfl | ht
      · rw [← Position.after_append] at hplace
        exact ⟨gap, lexeme, behind.text, rfl, hspells, hends, hplace⟩
      · obtain ⟨front, inside, back, htext, hspells, hends, hplace⟩ := ih hrest hmore ht
        refine ⟨gap ++ lexeme ++ front, inside, back, ?_, hspells, hends, ?_⟩
        · rw [text, htext]
          simp only [List.append_assoc]
        · rw [hplace]
          simp only [Position.after_append]

end Layout

/-! ### Texts put together -/

/-- What a gap can start with goes on with no token. -/
theorem endsAt_of_first {c : Char} (h : Text.isBlank c = true ∨ c = '/') (t : Token)
    (rest : List Char) : t.EndsAt (c :: rest) := by
  -- no character that a token goes on with can start a gap
  have hnot : ∀ p : Char → Bool, (∀ d, p d = true → Text.isBlank d = false) → p '/' = false →
      p c = false := by
    intro p hp hslash
    rcases h with hblank | rfl
    · rw [← Bool.not_eq_true]
      intro hc
      rw [hp c hc] at hblank
      cases hblank
    · exact hslash
  have hdigit : c.isDigit = false := hnot _ (fun _ => isBlank_eq_false_of_isDigit) (by decide)
  have hname : Scan.continuesName c = false :=
    hnot _ (fun _ => isBlank_eq_false_of_continuesName) (by decide)
  have hpoint : c ≠ '.' := by
    have := hnot (· == '.') (fun d hd => by rw [beq_iff_eq.1 hd]; decide) (by decide)
    simpa using this
  cases t with
  | integer value => exact ⟨by simpa using hdigit, fun d more heq => absurd (List.cons.inj heq).1 hpoint⟩
  | number value => simpa [Token.EndsAt] using hdigit
  | name text => simpa [Token.EndsAt] using hname
  | keyword word => simpa [Token.EndsAt] using hname
  | _ => trivial

/-- No name goes on in the text. -/
def EndsNames (text : List Char) : Prop :=
  ∀ c ∈ text.head?, Scan.continuesName c = false

theorem endsNames_symbol (s : Symbol) (more : List Char) : EndsNames (s.char :: more) := by
  intro c hc
  obtain rfl := Option.some.inj hc
  cases s <;> decide

/-- No token goes on with a symbol. -/
theorem endsAt_symbol (t : Token) (s : Symbol) (more : List Char) : t.EndsAt (s.char :: more) := by
  have hname : EndsNames (s.char :: more) := endsNames_symbol s more
  have hdigit : s.char.isDigit = false := by cases s <;> decide
  have hpoint : s.char ≠ '.' := by cases s <;> decide
  cases t with
  | integer value => exact ⟨by simpa using hdigit, fun d rest heq => absurd (List.cons.inj heq).1 hpoint⟩
  | number value => simpa [Token.EndsAt] using hdigit
  | name text => exact hname
  | keyword word => exact hname
  | _ => trivial

theorem gapForm_space : GapForm False [' '] :=
  .blank (by decide) .nil

/-- No token goes on with a space. -/
theorem endsAt_space (t : Token) (more : List Char) : t.EndsAt (' ' :: more) :=
  endsAt_of_first (.inl (by decide)) t more

/-- `Lays text kinds more` — in front of `more`, the text is lexemes of the tokens, each behind a gap, and
none of them goes on in what stands behind it. -/
inductive Lays : List Char → List Token → List Char → Prop
  | nil (more : List Char) : Lays [] [] more
  | item {gap lexeme text more : List Char} {t : Token} {kinds : List Token}
      (apart : GapForm False gap) (spells : Spells lexeme t) (rest : Lays text kinds more)
      (ends : t.EndsAt (text ++ more)) : Lays (gap ++ lexeme ++ text) (t :: kinds) more

namespace Lays

/-- Texts are laid out one in front of the other. -/
theorem append {front text more : List Char} {kinds kinds' : List Token}
    (h : Lays front kinds (text ++ more)) (h' : Lays text kinds' more) :
    Lays (front ++ text) (kinds ++ kinds') more := by
  generalize hmore : text ++ more = all at h
  induction h with
  | nil => exact h'
  | item apart spells _ ends ih =>
    subst hmore
    rw [List.append_assoc, List.cons_append]
    exact .item apart spells (ih rfl) (by rwa [List.append_assoc])

/-- One lexeme without a gap. -/
theorem single {lexeme more : List Char} {t : Token} (spells : Spells lexeme t)
    (ends : t.EndsAt more) : Lays lexeme [t] more := by
  have h : Lays ([] ++ lexeme ++ []) [t] more := .item .nil spells (.nil more) ends
  simpa using h

/-- One symbol without a gap. -/
theorem symbol (s : Symbol) (more : List Char) : Lays [s.char] [.symbol s] more :=
  single (.symbol s) trivial

/-- A text in front of a last gap is a layout. -/
theorem exists_layout {text gap : List Char} {kinds : List Token} (h : Lays text kinds gap)
    (hgap : GapForm True gap) : ∃ l : Layout, l.text = text ++ gap ∧ l.Gapped ∧ l.Writes kinds := by
  induction h with
  | nil more => exact ⟨.last more, rfl, hgap, trivial⟩
  | @item front lexeme _ _ _ _ apart spells _ ends ih =>
    obtain ⟨l, htext, hgaps, hwrites⟩ := ih hgap
    refine ⟨.item front lexeme l, ?_, ⟨apart, hgaps⟩, spells, by rwa [htext], hwrites⟩
    rw [Layout.text, htext]
    simp only [List.append_assoc]

end Lays

/-! ### Reading what is laid out -/

namespace Cursor

/-- A laid out text reads as its tokens, where the layout places them. -/
theorem stream_of_layout {l : Layout} {kinds : List Token} (hgaps : l.Gapped) (hwrites : l.Writes kinds)
    (p : Position) : ∃ ts, (⟨p, l.text⟩ : Cursor).stream.1 =
        ⟨ts, .finished ((p.after l.text).to (p.after l.text))⟩ ∧
      ts.map (·.value) = kinds ∧ ts.map (·.place) = l.places p := by
  induction l generalizing p kinds with
  | last gap =>
    cases kinds with
    | cons t kinds => cases hwrites
    | nil =>
      have hsplit : Gap.split gap = (gap, []) := by
        have hnil : Gap.split [] = ([], []) := by rw [Gap.split]
        have h := Gap.split_append_of_gapForm hgaps hnil fun _ => rfl
        rwa [List.append_nil] at h
      have hlexeme : (⟨p, gap⟩ : Cursor).lexeme = ⟨.ok .endOfInput, (p.after gap).to (p.after gap)⟩ := by
        simp only [lexeme, stop, start, scan, hsplit, Scan.token, Position.after_nil]
      refine ⟨[], ?_, rfl, rfl⟩
      rw [Layout.text, stream_of_end (by rw [hlexeme]), hlexeme]
  | item gap x behind ih =>
    cases kinds with
    | nil => cases hwrites
    | cons t kinds =>
      obtain ⟨hspells, hends, hrest⟩ := hwrites
      have hsplit : Gap.split (gap ++ x ++ behind.text) = (gap, x ++ behind.text) := by
        rw [List.append_assoc]
        exact Gap.split_append_of_gapForm hgaps.1 (split_append_of_spells hspells _) False.elim
      obtain ⟨hlexeme, hnext⟩ := step_of_spells gap hsplit hspells hends p
      obtain ⟨ts, hstream, hvalues, hplaces⟩ := ih hgaps.2 hrest ((p.after gap).after x)
      refine ⟨⟨t, (p.after gap).to ((p.after gap).after x)⟩ :: ts, ?_, ?_, ?_⟩
      · rw [Layout.text, stream_of_token (by rw [hlexeme]) (ne_of_spells hspells).1, hnext, hstream,
          hlexeme]
        simp only [TokenStream.cons, Position.after_append]
      · rw [List.map_cons, hvalues]
      · rw [List.map_cons, hplaces, Layout.places]

/-- A text that reads to its end is laid out as its tokens. -/
theorem exists_layout {c : Cursor} {ts : List (Placed Span Token)} {place : Span}
    (h : c.stream.1 = ⟨ts, .finished place⟩) :
    ∃ l : Layout, l.text = c.text ∧ l.Gapped ∧ l.Writes (ts.map (·.value)) := by
  induction c using stream.induct generalizing ts with
  | case1 c fault hfault =>
    rw [stream_of_fault hfault] at h
    cases h
  | case2 c hend =>
    rw [stream_of_end hend] at h
    cases h
    have hleft : (Gap.split c.text).2 = [] := Scan.eq_nil_of_token_endOfInput hend
    have htext := Gap.split_append c.text
    rw [hleft, List.append_nil] at htext
    exact ⟨.last (Gap.split c.text).1, htext, (Gap.gapForm_split c.text).mono fun _ => trivial, trivial⟩
  | case3 c token htoken hend _ _ _ ih =>
    rw [stream_of_token htoken hend] at h
    have hleft := left_ne_nil_of_token htoken hend
    obtain ⟨hspells, hends⟩ := spells_of_lexeme htoken hend
    cases hrest : c.next.stream.1 with
    | mk us ending =>
      rw [hrest] at h
      cases h
      obtain ⟨l, htext, hgaps, hwrites⟩ := ih hrest
      refine ⟨.item (Gap.split c.text).1 c.scan.lexeme l, ?_, ⟨?_, hgaps⟩, hspells, ?_, hwrites⟩
      · rw [Layout.text, htext, c.text_eq]
      · exact (Gap.gapForm_split c.text).mono hleft
      · rwa [htext]

/-! ### Tiling -/

theorem readAll_eq_ok_iff {c : Cursor} {all : List (Placed Span Token)} :
    c.readAll = .ok all ↔ ∃ ts place, c.stream.1 = ⟨ts, .finished place⟩ ∧
      all = ts ++ [⟨.endOfInput, place⟩] := by
  rw [readAll]
  cases hstream : c.stream.1 with
  | mk ts ending =>
    cases ending with
    | faulty fault place => simp
    | finished place =>
      refine ⟨fun h => ⟨ts, place, rfl, (Except.ok.inj h).symm⟩, ?_⟩
      rintro ⟨us, finish, ⟨⟩, rfl⟩
      rfl

/-- A source that reads to its end is laid out as its tokens, and each stands where the layout places it
and has its lexeme as its text. -/
theorem exists_layout_of_source {source : String} {ts : List (Placed Span Token)} {place : Span}
    (h : (ofSource source).stream.1 = ⟨ts, .finished place⟩) :
    ∃ l : Layout, l.text = source.toList ∧ l.Gapped ∧ l.Writes (ts.map (·.value)) ∧
      l.places Position.origin = ts.map (·.place) ∧
      l.lexemes = ts.map fun t => (t.place.slice source).toList := by
  obtain ⟨l, htext, hgaps, hwrites⟩ := exists_layout h
  obtain ⟨us, hus, -, hplaces⟩ := stream_of_layout hgaps hwrites Position.origin
  have htext : l.text = source.toList := htext
  -- the layout's own reading is the stream that there is
  rw [htext] at hus
  rw [ofSource, hus] at h
  cases h
  have hslices := l.slice?_places []
  rw [Position.after_nil, List.nil_append, htext, ← hplaces, List.map_map] at hslices
  refine ⟨l, htext, hgaps, hwrites, hplaces.symm, ?_⟩
  have hget := congrArg (List.map fun s : Option (List Char) => s.getD []) hslices
  simpa [Span.slice, Function.comp_def] using hget.symm

end Cursor

/-- Some token covers the whole text when that is read on its own. -/
def CoveredByToken (text : List Char) : Prop :=
  ∃ t ∈ (TokenStream.ofSource (String.ofList text)).tokens, t.place.slice? text = some text

/-- The token's text in the source is read alone as that token. Nothing longer that starts where the token
starts is covered by one token. -/
structure LongestLexeme (source : String) (t : Placed Span Token) : Prop where
  alone : (Cursor.ofSource (t.place.slice source)).readAll.map (List.map (·.value)) =
    .ok [t.value, .endOfInput]
  longest : ∀ before behind longer : List Char, source.toList = before ++ behind →
    byteSize before = t.place.start → longer <+: behind →
    (t.place.slice source).toList.length < longer.length → ¬ CoveredByToken longer

/-- The tokens tile the source: it is their lexemes, where they are placed, with gaps around them. None of
them is the end of the input, and each has the longest lexeme. -/
structure Tiles (source : String) (ts : List (Placed Span Token)) : Prop where
  ne_endOfInput : ∀ t ∈ ts, t.value ≠ .endOfInput
  laidOut : ∃ l : Layout, l.text = source.toList ∧ l.Gapped ∧
    l.lexemes = (ts.map fun t => (t.place.slice source).toList) ∧
    l.places Position.origin = ts.map (·.place)
  longest : ∀ t ∈ ts, LongestLexeme source t

theorem endsAt_of_append {t : Token} {more behind : List Char} (h : t.EndsAt (more ++ behind))
    (hne : more ≠ []) : t.EndsAt more := by
  obtain ⟨c, more, rfl⟩ := List.exists_cons_of_ne_nil hne
  cases t with
  | integer value =>
    refine ⟨h.1, ?_⟩
    rintro d rest ⟨⟩
    exact h.2 d (rest ++ behind) rfl
  | number value => exact h
  | name text => exact h
  | keyword word => exact h
  | _ => trivial

/-- A spelling is not part of a longer one, if what stands behind it does not go on with it. -/
theorem not_coveredByToken {lexeme more : List Char} {t : Token} (hspells : Spells lexeme t)
    (hends : t.EndsAt more) (hne : more ≠ []) : ¬ CoveredByToken (lexeme ++ more) := by
  rintro ⟨u, hu, hslice⟩
  obtain ⟨before, behind, htext, hstart, hstop⟩ := Span.slice?_eq_some_iff.1 hslice
  -- the covering token takes all of the text, so it starts at its start
  obtain ⟨rfl, rfl⟩ : before = [] ∧ behind = [] := by
    have hlength := congrArg List.length htext
    simp only [List.length_append] at hlength
    exact ⟨List.eq_nil_of_length_eq_zero (by omega), List.eq_nil_of_length_eq_zero (by omega)⟩
  have hmore := byteSize_pos hne
  have hlexeme : 0 < byteSize lexeme := byteSize_pos fun hnil => by
    obtain ⟨c, cs, hcons, -⟩ := hspells.first
    rw [hcons] at hnil
    cases hnil
  obtain ⟨hfirst, hnext⟩ :=
    Cursor.step_of_spells [] (split_append_of_spells hspells more) hspells hends Position.origin
  rw [List.nil_append, Position.after_nil] at hfirst hnext
  rw [TokenStream.ofSource, Cursor.ofSource, String.toList_ofList,
    Cursor.stream_of_token (by rw [hfirst]) (ne_of_spells hspells).1] at hu
  rcases List.mem_cons.1 hu with rfl | hu
  · simp only [hfirst, Position.to, Position.offset_origin_after, List.nil_append,
      byteSize_append] at hstop
    omega
  · -- all further tokens stand behind the first lexeme
    obtain ⟨n, hfound⟩ := (⟨Position.origin, lexeme ++ more⟩ : Cursor).next.found_prefix_walk
    have hbehind := Cursor.offset_le_start_of_mem_walk (hfound.subset (List.mem_map_of_mem hu))
    simp only [hnext, Position.offset_origin_after, Placed.found, hstart, byteSize_nil] at hbehind
    omega

/-- A token that a layout of the source places somewhere has the longest lexeme there. -/
theorem longestLexeme_of_around {source : String} {t : Placed Span Token}
    {before lexeme behind : List Char} (hsource : source.toList = before ++ lexeme ++ behind)
    (hspells : Spells lexeme t.value) (hends : t.value.EndsAt behind)
    (hplace : t.place =
      (Position.origin.after before).to (Position.origin.after (before ++ lexeme))) :
    LongestLexeme source t := by
  have hslice : t.place.slice source = String.ofList lexeme := by
    rw [Span.slice, hplace, hsource, Span.slice?_of_append]
    rfl
  refine ⟨?_, ?_⟩
  · obtain ⟨here, place, hstream⟩ := Cursor.stream_of_spells hspells Position.origin
    have hall : (Cursor.ofSource (t.place.slice source)).readAll =
        .ok ([⟨t.value, here⟩] ++ [⟨.endOfInput, place⟩]) := by
      refine Cursor.readAll_eq_ok_iff.2 ⟨_, place, ?_, rfl⟩
      rw [hslice, Cursor.ofSource, String.toList_ofList, hstream]
    rw [hall]
    rfl
  · intro front back longer hfront hbytes hlonger hlength
    -- what starts where the token starts is its lexeme and what stands behind it
    have hback : back = lexeme ++ behind := by
      have hcut : Span.cutAt? t.place.start source.toList = some (front, back) :=
        Span.cutAt?_eq_some_iff.2 ⟨hfront, hbytes⟩
      have hcut' : Span.cutAt? t.place.start source.toList = some (before, lexeme ++ behind) := by
        refine Span.cutAt?_eq_some_iff.2 ⟨by rw [hsource, List.append_assoc], ?_⟩
        rw [hplace, Position.to, Position.offset_origin_after]
      rw [hcut] at hcut'
      exact (Prod.mk.inj (Option.some.inj hcut')).2
    rw [hslice, String.toList_ofList] at hlength
    rw [hback] at hlonger
    obtain ⟨more, rfl⟩ : lexeme <+: longer :=
      List.prefix_of_prefix_length_le (List.prefix_append _ _) hlonger (Nat.le_of_lt hlength)
    obtain ⟨rest, hrest⟩ := hlonger
    rw [List.append_assoc] at hrest
    obtain rfl := List.append_cancel_left hrest
    have hne : more ≠ [] := by
      rintro rfl
      simp at hlength
    exact not_coveredByToken hspells (endsAt_of_append hends hne) hne

/-- The tokens of a source that reads to its end tile it, and behind them is the one end of the input. -/
theorem Cursor.readAll_tiles {source : String} {all : List (Placed Span Token)}
    (h : (ofSource source).readAll = .ok all) :
    ∃ ts place, all = ts ++ [⟨.endOfInput, place⟩] ∧ Tiles source ts := by
  obtain ⟨ts, place, hstream, rfl⟩ := readAll_eq_ok_iff.1 h
  obtain ⟨l, htext, hgaps, hwrites, hplaces, hlexemes⟩ := exists_layout_of_source hstream
  have haround := fun t (ht : t ∈ ts) => Layout.exists_around_of_mem hwrites hplaces.symm ht
  refine ⟨ts, place, rfl, ?_, ⟨l, htext, hgaps, hlexemes, hplaces⟩, ?_⟩
  · intro t ht
    obtain ⟨-, lexeme, -, -, hspells, -⟩ := haround t ht
    exact (ne_of_spells hspells).1
  · intro t ht
    obtain ⟨before, lexeme, behind, hsource, hspells, hends, hplace⟩ := haround t ht
    rw [htext] at hsource
    exact longestLexeme_of_around hsource hspells hends hplace

/-- A name and an integer, with a comment of three stars between them and one without a line feed behind
them. -/
theorem Cursor.readAll_tiles_between_comments :
    (ofSource "é/***/-1//é").readAll =
        .ok ([⟨.name "é", ⟨0, 2, 1, 1⟩⟩, ⟨.integer (-1), ⟨7, 9, 1, 7⟩⟩] ++
          [⟨.endOfInput, ⟨13, 13, 1, 12⟩⟩]) ∧
      ∃ ts place, [⟨.name "é", ⟨0, 2, 1, 1⟩⟩, ⟨.integer (-1), ⟨7, 9, 1, 7⟩⟩] ++
        [⟨.endOfInput, ⟨13, 13, 1, 12⟩⟩] = ts ++ [⟨.endOfInput, place⟩] ∧ Tiles "é/***/-1//é" ts := by
  have hstream : streamWithin 3 (ofSource "é/***/-1//é") =
      some ⟨[⟨.name "é", ⟨0, 2, 1, 1⟩⟩, ⟨.integer (-1), ⟨7, 9, 1, 7⟩⟩],
        .finished ⟨13, 13, 1, 12⟩⟩ := by
    cbv
  have hall := readAll_eq_ok_iff.2 ⟨_, _, stream_of_streamWithin hstream, rfl⟩
  exact ⟨hall, readAll_tiles hall⟩

end ModelIdl
