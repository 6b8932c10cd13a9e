import Mathlib
import ModelIdl.Proofs.Schema.Nesting
import ModelIdl.Proofs.Schema.Places
import ModelIdl.Proofs.Schema.Prefixes
import ModelIdl.Proofs.Schema.Recognition

/-!
# ModelIdl.Proofs.Schema.FirstOffence

Where parsing fails. A stream yields *items*: its tokens, and behind them the end of the input or the
fault that no token could be read over. Items are *viable* if some accepted source begins with the like
of them. A source that is not accepted is refused at the first item that is not viable behind those in
front of it, and the error is that item's (`Schema.parse_error_at_first_offence`).

* **The items in front are viable** because readers are prompt: fillers complete what was taken
  (`Reader.declarations_prompt`), and whatever tokens there are, some source reads as them.
* **The offending item is not** because the parser refuses it whatever follows, and it does not look at
  places (`Reader.declarations_bare`).
-/

namespace ModelIdl

open Reader

variable {σ : Type}

/-! ### Viable items -/

/-- Some accepted source begins with items of these values. -/
def Viable (front : List (Except Fault Token)) : Prop :=
  ∃ source u, Schema.parse source = .ok u ∧
    front <+: (TokenStream.ofSource source).items.map (·.value)

theorem Viable.shortened {front front' : List (Except Fault Token)} (h : Viable front)
    (hbegins : front' <+: front) : Viable front' := by
  obtain ⟨source, u, hu, hfront⟩ := h
  exact ⟨source, u, hu, hbegins.trans hfront⟩

/-! ### Tokens without places -/

/-- What the tokens are, at no place. -/
def bare (kinds : List Token) : Tokens Unit :=
  kinds.map fun t => ⟨t, ()⟩

theorem bare_append (front more : List Token) : bare (front ++ more) = bare front ++ bare more :=
  List.map_append

theorem bare_values (ts : Tokens Unit) : bare (ts.map (·.value)) = ts := by
  rw [bare, List.map_map]
  exact List.map_id ts

theorem values_bare (kinds : List Token) : (bare kinds).map (·.value) = kinds := by
  rw [bare, List.map_map]
  exact List.map_id kinds

/-- Without places, tokens parse as they do with them. -/
theorem Reader.declarations_bare (ts : Tokens σ) :
    declarations (bare (ts.map (·.value))) =
      relocated (fun _ => ()) (List.map (Declaration.map fun _ => ())) (declarations ts) := by
  rw [← follows_declarations (f := fun _ => ()) ts, bare, List.map_map]
  rfl

/-- What the grammar derives without places is parsed from any source of those tokens. -/
theorem Schema.parse_of_bare {source : String} {ts : Tokens Span} {place : Span}
    (hstream : TokenStream.ofSource source = ⟨ts, .finished place⟩) {v : Schema Unit}
    (hunit : Grammar.UnitForm Grammar.greedyJoin (bare (ts.map (·.value))) v)
    (hlimits : v.WithinLimits) :
    ∃ u, Schema.parse source = .ok u ∧ u.map (fun _ => ()) = v := by
  have hread := declarations_complete hunit hlimits
  rw [declarations_bare] at hread
  cases hts : Reader.declarations ts with
  | error e =>
    rw [hts] at hread
    cases hread
  | ok read =>
    obtain ⟨ds, rest⟩ := read
    simp only [hts, relocated, Except.ok.injEq, Prod.mk.injEq] at hread
    refine ⟨⟨ds⟩, ?_, congrArg Schema.mk hread.1⟩
    rw [Schema.parse, hstream, Schema.ofStream]
    simp only [hts]

/-- The tokens are declarations and nothing else. -/
def Accepted (kinds : List Token) : Prop :=
  ∃ ds, declarations (bare kinds) = .ok (ds, [])

theorem accepted_of_declarations {ts rest : Tokens σ} {ds : List (Declaration σ)}
    (h : declarations ts = .ok (ds, rest)) : Accepted (ts.map (·.value)) := by
  obtain rfl := declarations_exhaustive h
  exact ⟨_, by rw [declarations_bare, h]; rfl⟩

theorem declarations_of_accepted {ts : Tokens σ} (h : Accepted (ts.map (·.value))) :
    ∃ ds, declarations ts = .ok (ds, []) := by
  obtain ⟨ds, hds⟩ := h
  rw [declarations_bare] at hds
  cases hread : declarations ts with
  | error e =>
    rw [hread] at hds
    cases hds
  | ok read =>
    obtain ⟨ds, rest⟩ := read
    obtain rfl := declarations_exhaustive hread
    exact ⟨ds, rfl⟩

/-! ### Viable tokens -/

/-- What an accepted source yields is accepted tokens and the end of the input. -/
theorem exists_accepted_of_parse {source : String} {u : Schema Span}
    (h : Schema.parse source = .ok u) :
    ∃ kinds, Accepted kinds ∧ .endOfInput ∉ kinds ∧
      (TokenStream.ofSource source).items.map (·.value) = (kinds ++ [Token.endOfInput]).map .ok := by
  obtain ⟨⟨place, hend⟩, -, -⟩ := (Schema.ofStream_eq_ok_iff (TokenStream.ofSource_names source) u).1 h
  refine ⟨(TokenStream.ofSource source).tokens.map (·.value), ?_, ?_, ?_⟩
  · unfold Schema.parse Schema.ofStream at h
    cases hread : declarations (TokenStream.ofSource source).tokens with
    | error r => simp [hread] at h
    | ok read => exact accepted_of_declarations hread
  · intro hmem
    obtain ⟨t, ht, htend⟩ := List.mem_map.1 hmem
    obtain ⟨lexeme, hlexeme⟩ := Cursor.spelled_of_mem_stream _ t ht
    exact (ne_of_spells hlexeme).1 htend
  · simp [TokenStream.items, hend, Ending.item, Placed.found]

/-- Spelled tokens that are accepted are what some accepted source yields. -/
theorem viable_of_accepted {front more : List Token} (h : Accepted (front ++ more))
    (hspelled : ∀ t ∈ front ++ more, ∃ lexeme, Spells lexeme t) : Viable (front.map .ok) := by
  obtain ⟨source, ts, place, hstream, hts⟩ := exists_source_of_spelled hspelled
  rw [← hts] at h
  obtain ⟨ds, hds⟩ := declarations_of_accepted h
  refine ⟨source, ⟨ds⟩, ?_, ?_⟩
  · rw [Schema.parse, hstream, Schema.ofStream]
    simp only [hds]
  · have hkinds : (⟨ts, .finished place⟩ : TokenStream Span).items.map (·.value) =
        front.map .ok ++ (more.map .ok ++ [.ok .endOfInput]) := by
      rw [← List.append_assoc, ← List.map_append, ← hts]
      simp [TokenStream.items, Ending.item, Placed.found]
    rw [hstream, hkinds]
    exact List.prefix_append _ _

/-- Viable tokens are accepted, or followed by further tokens that make them so, or by the end. -/
theorem exists_accepted_of_viable {front : List Token} (h : Viable (front.map .ok)) :
    ∃ kinds, Accepted kinds ∧ .endOfInput ∉ kinds ∧ front <+: kinds ++ [Token.endOfInput] := by
  obtain ⟨source, u, hu, hfront⟩ := h
  obtain ⟨kinds, haccepted, hend, hitems⟩ := exists_accepted_of_parse hu
  rw [hitems] at hfront
  obtain ⟨front', hbegins, hfront'⟩ := List.prefix_map_iff.1 hfront
  obtain rfl : front = front' :=
    (List.map_inj_right fun _ _ => Except.ok.inj).1 hfront'
  exact ⟨kinds, haccepted, hend, hbegins⟩

/-- Behind viable tokens, the last of which is not the end, come those that make them accepted. -/
theorem exists_accepted_behind {front : Tokens σ} {t : Token}
    (h : Viable ((front.map fun t => .ok t.value) ++ [.ok t])) (hne : t ≠ .endOfInput) :
    ∃ more, Accepted (front.map (·.value) ++ t :: more) := by
  have hkinds : Viable ((front.map (·.value) ++ [t]).map .ok) := by
    rwa [List.map_append, List.map_map]
  obtain ⟨kinds, haccepted, -, hbegins⟩ := exists_accepted_of_viable hkinds
  rcases List.prefix_concat_iff.1 hbegins with heq | ⟨more, rfl⟩
  · obtain ⟨-, hlast⟩ := List.append_inj' heq rfl
    exact absurd (List.singleton_inj.1 hlast) hne
  · rw [List.append_assoc] at haccepted
    exact ⟨more, haccepted⟩

theorem not_viable_of_fault (front : List (Except Fault Token)) (fault : Fault) :
    ¬ Viable (front ++ [.error fault]) := by
  intro hviable
  obtain ⟨source, u, hu, hfront⟩ := hviable
  obtain ⟨kinds, -, -, hitems⟩ := exists_accepted_of_parse hu
  rw [hitems] at hfront
  have hmem : Except.error fault ∈ (kinds ++ [Token.endOfInput]).map Except.ok := hfront.subset (by simp)
  simp at hmem

/-- Fillers are spelled as they stand. -/
theorem spelled_of_mem_fillers : ∀ t ∈ fillers, ∃ lexeme, Spells lexeme t := by
  intro t ht
  simp only [fillers, List.mem_cons, List.not_mem_nil, or_false] at ht
  rcases ht with rfl | rfl | rfl | rfl | rfl | rfl | rfl | rfl | rfl
  · exact ⟨_, spells_keyword .model⟩
  · have hword : Scan.wordToken ['x'] = .name "x" := by decide
    rw [← hword]
    exact ⟨_, .word (by decide) (by simp)⟩
  · have hbody : StringForm ['x'] ['x'] := .plain (by decide) (by decide) (by decide) .nil
    exact ⟨_, .string hbody⟩
  all_goals exact ⟨_, .symbol _⟩

/-- Viable tokens have no more angle brackets open than a type may have around it. -/
theorem Viable.shallow {ts : Tokens σ} (h : Viable (ts.map fun t => .ok t.value)) :
    occurrences .openAngle ts ≤ occurrences .closeAngle ts + maxTypeDepth := by
  have hkinds : Viable ((ts.map (·.value)).map .ok) := by
    rwa [List.map_map]
  obtain ⟨kinds, ⟨ds, hds⟩, -, hbegins⟩ := exists_accepted_of_viable hkinds
  obtain ⟨w, hw, hrounded⟩ := (declarations_traced _).ok hds
  rw [List.append_nil] at hw
  have hshallow : Shallow maxTypeDepth (bare (kinds ++ [Token.endOfInput])) := by
    rw [bare_append, hw]
    exact hrounded.shallow.append hrounded.balanced (shallow_singleton _ (by simp))
  have hcount : ∀ s, occurrences s (bare (ts.map (·.value))) = occurrences s ts := by
    intro s
    rw [occurrences, values_bare]
    rfl
  have := hshallow _ (hbegins.map _)
  rwa [← bare, hcount, hcount] at this

/-- As many angle brackets are open behind the tokens as there may be around a type. -/
def Full (w : Tokens σ) : Prop :=
  occurrences .openAngle w = occurrences .closeAngle w + maxTypeDepth

/-- Another bracket is one too many. -/
theorem Full.not_viable {w : Tokens σ} (h : Full w) (p : σ) :
    ¬ Viable ((w ++ [(⟨.symbol .openAngle, p⟩ : Placed σ Token)]).map fun t => .ok t.value) := by
  intro hviable
  have hshallow := hviable.shallow
  have hopen : occurrences .openAngle (w ++ [⟨.symbol .openAngle, p⟩]) =
      occurrences .openAngle w + 1 := by simp
  have hclose : occurrences .closeAngle (w ++ [⟨.symbol .openAngle, p⟩]) =
      occurrences .closeAngle w := by simp
  rw [hopen, hclose] at hshallow
  unfold Full at h
  omega

/-! ### Refusals -/

/-- What is refused: the first of the tokens that are left, or the end behind them. -/
def Rejection.found (r : Rejection σ) : Token :=
  (r.remaining.head?.map (·.value)).getD .endOfInput

/-- What the parser refuses stands behind viable tokens, and is refused there whatever follows. -/
theorem Reader.declarations_refusal {ts : Tokens σ} {r : Rejection σ}
    (h : declarations ts = .error r) (hspelled : ∀ t ∈ ts, ∃ lexeme, Spells lexeme t.value) :
    ∃ front, ts = front ++ r.remaining ∧ Sited maxTypeDepth front r ∧
      Viable (front.map fun t => .ok t.value) ∧
      RefusesBehind declarations (bare (front.map (·.value)))
        ⟨r.expected, bare (r.remaining.map (·.value))⟩ := by
  obtain ⟨front, hts, hsited⟩ := (declarations_traced ts).error h
  have hbare : declarations (bare (ts.map (·.value))) =
      .error ⟨r.expected, bare (r.remaining.map (·.value))⟩ := by
    rw [declarations_bare, h, bare, List.map_map]
    rfl
  obtain ⟨front', hfront', hrefuses, c, ds, hc, hcomplete⟩ := (declarations_prompt _).error hbare
  -- both have the same tokens behind them
  obtain rfl : front' = bare (front.map (·.value)) := by
    rw [hts, List.map_append, bare_append] at hfront'
    exact (List.append_cancel_right hfront').symm
  refine ⟨front, hts, hsited, ?_, hrefuses⟩
  have haccepted : Accepted (front.map (·.value) ++ c.map (·.value)) := by
    refine ⟨ds, ?_⟩
    rw [bare_append, bare_values, ← hcomplete [] rfl, List.append_nil]
  have hviable := viable_of_accepted haccepted ?_
  · rwa [List.map_map] at hviable
  · intro t ht
    rcases List.mem_append.1 ht with hfront | hfiller
    · obtain ⟨u, hu, rfl⟩ := List.mem_map.1 hfront
      exact hspelled u (by rw [hts]; exact List.mem_append_left _ hu)
    · obtain ⟨u, hu, rfl⟩ := List.mem_map.1 hfiller
      exact spelled_of_mem_fillers _ (hc u hu)

theorem not_viable_of_refused_token {front : Tokens σ} {e : Rejection Unit} {t : Token}
    {rest : Tokens Unit} (h : RefusesBehind declarations (bare (front.map (·.value))) e)
    (hnext : e.remaining = ⟨t, ()⟩ :: rest) (hne : t ≠ .endOfInput) :
    ¬ Viable ((front.map fun t => .ok t.value) ++ [.ok t]) := by
  intro hviable
  obtain ⟨more, ds, hds⟩ := exists_accepted_behind hviable hne
  have hrefused := h (bare (t :: more)) (by rw [hnext]; rfl)
  rw [bare_append, hrefused] at hds
  cases hds

theorem not_viable_of_refused_end {front : Tokens σ} {e : Rejection Unit}
    (h : RefusesBehind declarations (bare (front.map (·.value))) e) (hnext : e.remaining = []) :
    ¬ Viable ((front.map fun t => .ok t.value) ++ [.ok .endOfInput]) := by
  intro hviable
  have hkinds : Viable ((front.map (·.value) ++ [Token.endOfInput]).map .ok) := by
    rwa [List.map_append, List.map_map]
  obtain ⟨kinds, ⟨ds, hds⟩, hend, hbegins⟩ := exists_accepted_of_viable hkinds
  rcases List.prefix_concat_iff.1 hbegins with heq | hinside
  · obtain rfl := List.append_cancel_right heq
    have hrefused := h [] (by rw [hnext])
    rw [List.append_nil, hds] at hrefused
    cases hrefused
  · exact hend (hinside.subset (by simp))

/-- What is refused is not viable behind the tokens in front. -/
theorem not_viable_found {front : Tokens σ} {r : Rejection σ}
    (h : RefusesBehind declarations (bare (front.map (·.value)))
      ⟨r.expected, bare (r.remaining.map (·.value))⟩)
    (hspelled : ∀ t ∈ r.remaining, ∃ lexeme, Spells lexeme t.value) :
    ¬ Viable ((front.map fun t => .ok t.value) ++ [.ok r.found]) := by
  obtain ⟨expected, remaining⟩ := r
  cases remaining with
  | nil => exact not_viable_of_refused_end h rfl
  | cons t rest =>
    obtain ⟨lexeme, hlexeme⟩ := hspelled t (by simp)
    exact not_viable_of_refused_token h rfl (ne_of_spells hlexeme).1

/-! ### Errors -/

/-- The error is the fault that the item is, or it is about the token that the item is, behind the tokens
in front. It is about the nesting exactly if the token would open one bracket too many for a type. -/
def ParseError.Blames (e : ParseError σ) (front : Tokens σ) (item : Lexeme σ) : Prop :=
  match item.value with
  | .error fault => e = .lexical fault item.place
  | .ok t => ∃ expected, e = .grammatical expected t item.place ∧
    e.foundText = (if last? front = some (.keyword .as) ∧ t = .string "" then "empty string"
      else t.describe) ∧
    (expected = .shallowerType ↔ EndsInName front ∧ t = .symbol .openAngle ∧ Full front)

/-- The item is the first of the source that is not viable behind those in front, and the error blames it.
No bracket that is one too many is taken, and such a bracket of a type is blamed for that, unless
something in front of it is refused. -/
structure FirstOffence (source : String) (e : ParseError Span) (front : Tokens Span)
    (item : Lexeme Span) : Prop where
  split : ∃ behind, (TokenStream.ofSource source).items = front.map Placed.found ++ item :: behind
  viable : Viable (front.map fun t => .ok t.value)
  offends : ¬ Viable ((front.map fun t => .ok t.value) ++ [item.value])
  blames : e.Blames front item
  deepest : ∀ outer p inner, (TokenStream.ofSource source).tokens =
    outer ++ ⟨.symbol .openAngle, p⟩ :: inner → Full outer →
    front <+: outer ∧ (Viable (outer.map fun t => .ok t.value) → EndsInName outer →
      e = .grammatical .shallowerType (.symbol .openAngle) p)

theorem Rejection.found_eq_symbol {r : Rejection σ} {s : Symbol} :
    r.found = .symbol s ↔ startsWith s r.remaining = true := by
  obtain ⟨expected, remaining⟩ := r
  cases remaining with
  | nil => simp [Rejection.found]
  | cons t rest =>
    obtain ⟨value, place⟩ := t
    cases value <;> simp [Rejection.found, startsWith]

theorem Rejection.found_eq_string {r : Rejection σ} {text : String} :
    r.found = .string text ↔ r.remaining.head?.map (·.value) = some (.string text) := by
  obtain ⟨expected, remaining⟩ := r
  cases remaining <;> simp [Rejection.found]

/-- The error of a refusal blames what was refused. -/
theorem blames_of_sited {front : Tokens σ} {r : Rejection σ} (h : Sited maxTypeDepth front r)
    (place : σ) :
    (ParseError.grammatical r.expected r.found place).Blames front ⟨.ok r.found, place⟩ := by
  refine ⟨r.expected, rfl, ?_, ?_⟩
  · have hunnamed := h.unnamed
    rw [← Rejection.found_eq_string] at hunnamed
    by_cases hempty : r.expected = .nonEmptyLogicalName
    · rw [if_pos (hunnamed.1 hempty), hempty]
      rfl
    · rw [if_neg fun hfound => hempty (hunnamed.2 hfound)]
      show r.expected.foundText r.found = _
      unfold Expectation.foundText
      split
      · contradiction
      · rfl
  · rw [h.deepest, Rejection.found_eq_symbol]
    rfl

/-- A stream is refused at the first of its items that is not viable behind those in front. -/
theorem Schema.ofStream_error {s : TokenStream σ} {e : ParseError σ} (h : Schema.ofStream s = .error e)
    (hspelled : ∀ t ∈ s.tokens, ∃ lexeme, Spells lexeme t.value) :
    ∃ (front rest : Tokens σ) (item : Lexeme σ) (behind : List (Lexeme σ)),
      s.tokens = front ++ rest ∧ rest.map Placed.found ++ [s.ending.item] = item :: behind ∧
      Viable (front.map fun t => .ok t.value) ∧
      ¬ Viable ((front.map fun t => .ok t.value) ++ [item.value]) ∧ e.Blames front item := by
  obtain ⟨ts, ending⟩ := s
  rw [Schema.ofStream] at h
  cases hread : Reader.declarations ts with
  | error r =>
    obtain ⟨front, htokens, hsited, hviable, hrefuses⟩ := declarations_refusal hread hspelled
    have hoffends := not_viable_found hrefuses fun t ht =>
      hspelled t (by rw [htokens]; exact List.mem_append_right _ ht)
    have hblames := blames_of_sited hsited
    simp only [hread, Except.error.injEq] at h
    obtain ⟨expected, remaining⟩ := r
    obtain rfl : ts = front ++ remaining := htokens
    cases remaining with
    | cons t rest =>
      refine ⟨front, t :: rest, t.found, _, rfl, rfl, hviable, hoffends, ?_⟩
      rw [← h]
      exact hblames t.place
    | nil =>
      refine ⟨front, [], ending.item, [], rfl, rfl, hviable, ?_⟩
      cases ending with
      | finished place =>
        rw [← h]
        exact ⟨hoffends, hblames place⟩
      | faulty fault place => exact ⟨not_viable_of_fault _ fault, h.symm⟩
  | ok read =>
    cases ending with
    | finished place => simp [hread] at h
    -- the tokens are accepted, so nothing but the fault behind them is wrong
    | faulty fault place =>
      simp only [hread, Except.error.injEq] at h
      obtain ⟨ds, rest⟩ := read
      have hviable : Viable ((ts.map (·.value)).map .ok) := by
        have haccepted := accepted_of_declarations hread
        rw [← List.append_nil (ts.map (·.value))] at haccepted
        refine viable_of_accepted haccepted ?_
        simpa using hspelled
      rw [List.map_map] at hviable
      exact ⟨ts, [], _, [], (List.append_nil ts).symm, rfl, hviable, not_viable_of_fault _ fault, h.symm⟩

/-- A source that is not accepted is refused at its first item that is not viable behind those in
front. -/
theorem Schema.parse_error_at_first_offence {source : String} {e : ParseError Span}
    (h : Schema.parse source = .error e) : ∃ front item, FirstOffence source e front item := by
  obtain ⟨front, rest, item, behind, htokens, hbehind, hviable, hoffends, hblames⟩ :=
    Schema.ofStream_error h (Cursor.spelled_of_mem_stream (Cursor.ofSource source))
  refine ⟨front, item, ⟨behind, ?_⟩, hviable, hoffends, hblames, ?_⟩
  · rw [TokenStream.items, ← hbehind, ← List.append_assoc, ← List.map_append, htokens]
  · intro outer p inner houter hfull
    -- the error blames the bracket if it is the next token
    have hnext : rest = ⟨.symbol .openAngle, p⟩ :: inner → EndsInName front → Full front →
        e = .grammatical .shallowerType (.symbol .openAngle) p := by
      intro hrest hname hfull
      subst hrest
      obtain ⟨rfl, -⟩ := List.cons.inj hbehind
      obtain ⟨expected, rfl, -, hdeep⟩ := hblames
      rw [hdeep.2 ⟨hname, rfl, hfull⟩]
      rfl
    have hrows : outer ++ ⟨.symbol .openAngle, p⟩ :: inner = front ++ rest := houter.symm.trans htokens
    rcases List.append_eq_append_iff.1 hrows with ⟨v, rfl, hrest⟩ | ⟨v, rfl, hrest⟩
    · cases v with
      | nil =>
        rw [List.append_nil] at hnext ⊢
        exact ⟨List.prefix_rfl, fun _ hname => hnext hrest.symm hname hfull⟩
      | cons u v =>
        obtain ⟨rfl, -⟩ := List.cons.inj hrest
        refine absurd (hviable.shortened ?_) (hfull.not_viable p)
        exact List.IsPrefix.map _ ⟨v, by simp⟩
    · refine ⟨List.prefix_append front v, fun houterviable hname => ?_⟩
      cases v with
      | nil =>
        rw [List.append_nil] at hname hfull
        exact hnext hrest hname hfull
      -- the offending item would be one of the viable ones
      | cons u v =>
        rw [hrest] at hbehind
        obtain ⟨rfl, -⟩ := List.cons.inj hbehind
        refine absurd (houterviable.shortened ?_) hoffends
        exact ⟨v.map fun t => .ok t.value, by simp [Placed.found]⟩

/-- The empty name is the first offence, whatever is wrong behind it. -/
theorem Schema.parse_error_in_front_of_fault :
    Schema.parse "model A as \"\" #" =
      .error (.grammatical .nonEmptyLogicalName (.string "") ⟨11, 13, 1, 12⟩) ∧
    ∃ front item, FirstOffence "model A as \"\" #"
      (.grammatical .nonEmptyLogicalName (.string "") ⟨11, 13, 1, 12⟩) front item := by
  have hparse : parseWithin 5 "model A as \"\" #" =
      some (.error (.grammatical .nonEmptyLogicalName (.string "") ⟨11, 13, 1, 12⟩)) := by
    cbv
  exact ⟨parse_of_parseWithin 5 hparse, parse_error_at_first_offence (parse_of_parseWithin 5 hparse)⟩

end ModelIdl
