import ModelIdl.Proofs.Schema.FirstOffence
import ModelIdl.Proofs.Token.Layout

/-!
# ModelIdl.Proofs.Schema.Relayout

Layout and comments mean nothing. The lexemes of a source, laid out again with any gaps of which none
between two lexemes is empty, read as the same tokens and parse as the same schema, or are refused at the
same token for the same reason (`Schema.parse_relaid`).

* **A gap ends every token,** so a lexeme that spells a token spells it in every separated layout
  (`Layout.Writes.relaid`).
* **Two sources of the same tokens are one stream** with two places for each token. Parsing does not look
  at places, so it does the same for both (`Schema.ofStream_paired`).
-/

namespace ModelIdl

variable {σ : Type}

/-! ### Separated lexemes -/

namespace Layout

/-- The first gap is not empty, unless it is the last as well. -/
def StartsApart : Layout → Prop
  | last _ => True
  | item gap _ _ => gap ≠ []

/-- No gap between two lexemes is empty. -/
def Separated : Layout → Prop
  | last _ => True
  | item _ _ behind => behind.StartsApart ∧ behind.Separated

/-- No token goes on in a text that starts with a gap, or that is empty. -/
theorem endsAt_text {l : Layout} (hgaps : l.Gapped) (hapart : l.StartsApart) (t : Token) :
    t.EndsAt l.text := by
  cases l with
  | last gap =>
    by_cases hgap : gap = []
    · rw [text, hgap]
      cases t <;> simp [Token.EndsAt]
    · obtain ⟨c, rest, rfl, hc⟩ := GapForm.first hgaps hgap
      exact endsAt_of_first hc t rest
  | item gap lexeme behind =>
    obtain ⟨c, rest, rfl, hc⟩ := GapForm.first hgaps.1 hapart
    exact endsAt_of_first hc t _

/-- Lexemes that write tokens write them wherever they are laid out apart from each other. -/
theorem Writes.relaid {l m : Layout} {kinds : List Token} (hwrites : m.Writes kinds)
    (hsame : l.lexemes = m.lexemes) (hgaps : l.Gapped) (hseparated : l.Separated) :
    l.Writes kinds := by
  induction m generalizing l kinds with
  | last gap =>
    cases l with
    | item _ _ _ => cases hsame
    | last _ =>
      cases kinds with
      | nil => trivial
      | cons _ _ => cases hwrites
  | item gap lexeme behind ih =>
    cases l with
    | last _ => cases hsame
    | item gap' lexeme' behind' =>
      obtain ⟨rfl, hmore⟩ := List.cons.inj hsame
      cases kinds with
      | nil => cases hwrites
      | cons t kinds =>
        obtain ⟨hspells, -, hrest⟩ := hwrites
        exact ⟨hspells, endsAt_text hgaps.2 hseparated.1 t, ih hrest hmore hgaps.2 hseparated.2⟩

end Layout

/-! ### One stream at two places -/

/-- Two sources of the same tokens are one stream with two places for each token. -/
theorem TokenStream.exists_paired {ts us : List (Placed σ Token)}
    (h : us.map (·.value) = ts.map (·.value)) (p q : σ) : ∃ s : TokenStream (σ × σ),
      s.map Prod.fst = ⟨ts, .finished p⟩ ∧ s.map Prod.snd = ⟨us, .finished q⟩ := by
  induction ts generalizing us with
  | nil =>
    obtain rfl := List.map_eq_nil_iff.1 h
    exact ⟨⟨[], .finished (p, q)⟩, rfl, rfl⟩
  | cons t ts ih =>
    cases us with
    | nil => cases h
    | cons u us =>
      obtain ⟨hvalue, hmore⟩ := List.cons.inj h
      have hvalue : u.value = t.value := hvalue
      obtain ⟨s, hfst, hsnd⟩ := ih hmore
      refine ⟨s.cons ⟨t.value, (t.place, u.place)⟩, ?_, ?_⟩
      · rw [map_cons, hfst]
        rfl
      · rw [map_cons, hsnd, ← hvalue]
        rfl

theorem ParseError.Blames.place_eq {e : ParseError σ} {front : Tokens σ} {item : Lexeme σ}
    (h : e.Blames front item) : e.place = item.place := by
  unfold ParseError.Blames at h
  split at h
  · rw [h]
    rfl
  · obtain ⟨expected, rfl, -⟩ := h
    rfl

theorem TokenStream.items_map {τ : Type} (f : σ → τ) (s : TokenStream σ) :
    (s.map f).items = s.items.map (·.map f) := by
  obtain ⟨ts, ending⟩ := s
  cases ending <;> simp [items, map, Ending.map, Ending.item, Placed.map, Placed.found]

/-- Parsing gives the same twice, apart from places: the same schema, or an error in the same words at the
corresponding one of the places. -/
def ParsesAlike (places places' : List σ) :
    Except (ParseError σ) (Schema σ) → Except (ParseError σ) (Schema σ) → Prop
  | .ok u, .ok u' => u.map (fun _ => ()) = u'.map (fun _ => ())
  | .error e, .error e' => e.text = e'.text ∧ e.expectedText = e'.expectedText ∧
      e.foundText = e'.foundText ∧ ∃ i : Nat, places[i]? = some e.place ∧ places'[i]? = some e'.place
  | _, _ => False

/-- A stream with two places for each token parses alike at the first places and at the second. -/
theorem Schema.ofStream_paired {s : TokenStream (σ × σ)}
    (hspelled : ∀ t ∈ s.tokens, ∃ lexeme, Spells lexeme t.value) :
    ParsesAlike ((s.map Prod.fst).items.map (·.place)) ((s.map Prod.snd).items.map (·.place))
      (Schema.ofStream (s.map Prod.fst)) (Schema.ofStream (s.map Prod.snd)) := by
  have hfst := Schema.ofStream_map Prod.fst s
  have hsnd := Schema.ofStream_map Prod.snd s
  cases hparse : Schema.ofStream s with
  | ok u =>
    simp only [hparse] at hfst hsnd
    -- without any places, both are the same stream
    have hbare : (s.map Prod.fst).map (fun _ => ()) = (s.map Prod.snd).map (fun _ => ()) := by
      obtain ⟨ts, ending⟩ := s
      simp only [TokenStream.map, List.map_map]
      cases ending <;> rfl
    have hfst' := Schema.ofStream_map (fun _ => ()) (s.map Prod.fst)
    have hsnd' := Schema.ofStream_map (fun _ => ()) (s.map Prod.snd)
    rw [hfst] at hfst'
    rw [hsnd, ← hbare, hfst'] at hsnd'
    rw [hfst, hsnd]
    exact Except.ok.inj hsnd'
  | error e =>
    simp only [hparse] at hfst hsnd
    obtain ⟨htext, hexpected, hfound, hplace⟩ := e.texts_map Prod.fst
    obtain ⟨htext', hexpected', hfound', hplace'⟩ := e.texts_map Prod.snd
    rw [hfst, hsnd]
    refine ⟨htext.trans htext'.symm, hexpected.trans hexpected'.symm, hfound.trans hfound'.symm, ?_⟩
    obtain ⟨front, rest, item, behind, htokens, hrest, -, -, hblames⟩ :=
      Schema.ofStream_error hparse hspelled
    have hitems : s.items = front.map Placed.found ++ item :: behind := by
      rw [TokenStream.items, htokens, List.map_append, List.append_assoc, hrest]
    refine ⟨front.length, ?_, ?_⟩
    · rw [hplace, hblames.place_eq, TokenStream.items_map, hitems]
      simp [Placed.map]
    · rw [hplace', hblames.place_eq, TokenStream.items_map, hitems]
      simp [Placed.map]

/-! ### Laying out again -/

/-- The lexemes of a source that reads to its end, with any gaps between them that are not empty and any
gaps around them, read as the same tokens and parse alike. -/
theorem Schema.parse_relaid {source : String} {all : List (Placed Span Token)} {l : Layout}
    (h : (Cursor.ofSource source).readAll = .ok all)
    (hlexemes : l.lexemes = all.dropLast.map fun t => (t.place.slice source).toList)
    (hgaps : l.Gapped) (hseparated : l.Separated) :
    ∃ all', (Cursor.ofSource (String.ofList l.text)).readAll = .ok all' ∧
      all'.map (·.value) = all.map (·.value) ∧
      ParsesAlike (all.map (·.place)) (all'.map (·.place)) (Schema.parse source)
        (Schema.parse (String.ofList l.text)) := by
  obtain ⟨ts, place, hstream, rfl⟩ := Cursor.readAll_eq_ok_iff.1 h
  obtain ⟨m, -, -, hwrites, -, hslices⟩ := Cursor.exists_layout_of_source hstream
  rw [List.dropLast_concat, ← hslices] at hlexemes
  obtain ⟨us, hstream', hvalues, -⟩ :=
    Cursor.stream_of_layout hgaps (hwrites.relaid hlexemes hgaps hseparated) Position.origin
  generalize (Position.origin.after l.text).to (Position.origin.after l.text) = place' at hstream'
  have hsource' : (Cursor.ofSource (String.ofList l.text)).stream.1 = ⟨us, .finished place'⟩ := by
    rw [Cursor.ofSource, String.toList_ofList, hstream']
  refine ⟨us ++ [⟨.endOfInput, place'⟩], Cursor.readAll_eq_ok_iff.2 ⟨us, place', hsource', rfl⟩,
    by simp [hvalues], ?_⟩
  -- both streams are one, and its tokens are spelled because those of the source are
  obtain ⟨s, hfst, hsnd⟩ := TokenStream.exists_paired hvalues place place'
  have hspelled : ∀ t ∈ s.tokens, ∃ lexeme, Spells lexeme t.value := by
    intro t ht
    have hmem : t.map Prod.fst ∈ (s.map Prod.fst).tokens := List.mem_map_of_mem ht
    rw [hfst, ← hstream] at hmem
    exact Cursor.spelled_of_mem_stream _ _ hmem
  have halike := Schema.ofStream_paired hspelled
  rw [hfst, hsnd] at halike
  simpa [Schema.parse, TokenStream.ofSource, hstream, hsource', TokenStream.items, Placed.found,
    Ending.item, Function.comp_def] using halike

/-- A model without its opening brace, and the same with comments in all gaps. -/
def Layout.commented : Layout :=
  .item "/**/".toList "model".toList <| .item "/*/*/".toList "A".toList <|
    .item "//\x7b\n\t".toList "\x7d".toList <| .last " // \x7d".toList

theorem Layout.commented_gapped : Layout.commented.Gapped :=
  ⟨@GapForm.block False [] [] (by decide) .nil, @GapForm.block False ['/'] [] (by decide) .nil,
    @GapForm.line False ['{'] ['\t'] (by decide) (.blank (by decide) .nil),
    .blank (by decide) (@GapForm.unendedLine True [' ', '}'] (by decide) trivial)⟩

theorem Schema.parse_relaid_commented :
    (Cursor.ofSource "model A\x7d").readAll = .ok ([⟨.keyword .model, ⟨0, 5, 1, 1⟩⟩,
        ⟨.name "A", ⟨6, 7, 1, 7⟩⟩, ⟨.symbol .closeBrace, ⟨7, 8, 1, 8⟩⟩] ++
          [⟨.endOfInput, ⟨8, 8, 1, 9⟩⟩]) ∧
      Layout.commented.Gapped ∧ Layout.commented.Separated ∧
      ∃ all', (Cursor.ofSource (String.ofList Layout.commented.text)).readAll = .ok all' ∧
        all'.map (·.value) = [.keyword .model, .name "A", .symbol .closeBrace, .endOfInput] ∧
        ParsesAlike [⟨0, 5, 1, 1⟩, ⟨6, 7, 1, 7⟩, ⟨7, 8, 1, 8⟩, ⟨8, 8, 1, 9⟩] (all'.map (·.place))
          (Schema.parse "model A\x7d") (Schema.parse (String.ofList Layout.commented.text)) := by
  have hstream : Cursor.streamWithin 4 (Cursor.ofSource "model A\x7d") =
      some ⟨[⟨.keyword .model, ⟨0, 5, 1, 1⟩⟩, ⟨.name "A", ⟨6, 7, 1, 7⟩⟩,
        ⟨.symbol .closeBrace, ⟨7, 8, 1, 8⟩⟩], .finished ⟨8, 8, 1, 9⟩⟩ := by
    cbv
  have hall := Cursor.readAll_eq_ok_iff.2 ⟨_, _, Cursor.stream_of_streamWithin hstream, rfl⟩
  have hseparated : Layout.commented.Separated := by
    simp [Layout.commented, Layout.Separated, Layout.StartsApart]
  exact ⟨hall, Layout.commented_gapped, hseparated,
    Schema.parse_relaid hall rfl Layout.commented_gapped hseparated⟩

end ModelIdl
