import Mathlib
import ModelIdl.Proofs.Schema.FirstOffence
import ModelIdl.Proofs.Schema.LeadingAnnotations

/-!
# ModelIdl.Proofs.Schema.Expectations

What an error says was expected could have stood there, with one exception. Where a field is expected
behind annotations of its own, the error names the closing brace besides its name, as it does where no
annotations were read. But these annotations belong to the field, so no brace may close the body behind
them (`Schema.parse_error_names_acceptable`).
-/

namespace ModelIdl

open Grammar Reader

variable {σ : Type}

/-- Some text reads as the token. -/
def Token.Spelled (t : Token) : Prop :=
  ∃ lexeme, Spells lexeme t

/-! ### Tokens that could come next -/

/-- The token could come behind these in an accepted source. -/
def Acceptable (front : Tokens σ) (t : Token) : Prop :=
  Viable ((front.map fun u => .ok u.value) ++ [.ok t])

theorem acceptable_of_viable {front : Tokens σ} {t : Placed σ Token}
    (h : Viable ((front ++ [t]).map fun u => .ok u.value)) : Acceptable front t.value := by
  simpa [Acceptable] using h

/-- Tokens in front of others, with which they are read to the end, are viable. -/
theorem viable_of_declarations {front : Tokens σ} (more : Tokens σ)
    (h : ∃ ds, declarations (front ++ more) = .ok (ds, []))
    (hspelled : ∀ t ∈ front ++ more, t.value.Spelled) : Viable (front.map fun t => .ok t.value) := by
  obtain ⟨ds, hds⟩ := h
  have haccepted := accepted_of_declarations hds
  rw [List.map_append] at haccepted
  have hviable := viable_of_accepted haccepted ?_
  · rwa [List.map_map] at hviable
  · intro t ht
    rw [← List.map_append] at ht
    obtain ⟨u, hu, rfl⟩ := List.mem_map.1 ht
    exact hspelled u hu

/-- Tokens that the parser drains are viable. -/
theorem viable_of_drains {ts : Tokens σ} (h : Drains declarations ts)
    (hspelled : ∀ t ∈ ts, t.value.Spelled) : Viable (ts.map fun t => .ok t.value) := by
  obtain ⟨ds, hds⟩ | ⟨expected, he⟩ := h.cases
  · exact viable_of_declarations [] ⟨ds, by rwa [List.append_nil]⟩ (by simpa using hspelled)
  · obtain ⟨front, hts, -, hviable, -⟩ := declarations_refusal he hspelled
    rwa [hts, List.append_nil]

/-- What the parser refuses could not have come next. -/
theorem not_acceptable_of_refusal {ts : Tokens σ} {e : Rejection σ} (h : declarations ts = .error e)
    (hspelled : ∀ t ∈ ts, t.value.Spelled) {front : Tokens σ} (hts : ts = front ++ e.remaining) :
    ¬ Acceptable front e.found := by
  obtain ⟨front', hfront, -, -, hrefuses⟩ := declarations_refusal h hspelled
  obtain rfl : front = front' := List.append_cancel_right (hts.symm.trans hfront)
  exact not_viable_found hrefuses fun t ht => hspelled t (by rw [hts]; exact List.mem_append_right _ ht)

/-! ### The closing brace -/

theorem run_bare (p : Phase) (w : Tokens σ) : p.run (bare (w.map (·.value))) = p.run w := by
  simp only [Phase.run, bare, List.foldlM_map]

/-- Behind annotations that start a field no body ends. -/
theorem Reader.FieldBegun.not_acceptable {front : Tokens σ} (h : FieldBegun front) :
    ¬ Acceptable front (.symbol .closeBrace) := by
  intro hviable
  obtain ⟨more, ds, hds⟩ := exists_accepted_behind hviable Token.noConfusion
  have hrun := Phase.run_declarations hds
  rw [bare_append, Phase.run_append, run_bare] at hrun
  obtain ⟨q, hfront, hrest⟩ := Option.bind_eq_some_iff.1 hrun
  obtain rfl := h.run_eq hfront
  cases hrest

/-! ### Between parts -/

/-- A token is acceptable if with it and fillers behind it the tokens are read to the end. -/
theorem acceptable_of_fillers {front : Tokens σ} {t : Placed σ Token} (more : Tokens σ)
    (h : ∃ ds, declarations (front ++ t :: more) = .ok (ds, []))
    (hspelled : ∀ u ∈ front, u.value.Spelled) (ht : t.value.Spelled) (hmore : Filling more) :
    Acceptable front t.value := by
  refine acceptable_of_viable (viable_of_declarations more (by simpa using h) ?_)
  intro u hu
  simp only [List.append_assoc, List.singleton_append, List.mem_append, List.mem_cons] at hu
  obtain hu | rfl | hu := hu
  · exact hspelled u hu
  · exact ht
  · exact spelled_of_mem_fillers _ (hmore u hu)

theorem spelled_symbol (s : Symbol) : Token.Spelled (.symbol s) :=
  ⟨_, .symbol s⟩

/-- The annotation `@x`, by itself. -/
theorem annots_x (p : σ) :
    Repeated AnnotForm [⟨.symbol .atSign, p⟩, ⟨.name "x", p⟩] [⟨"x", [], p⟩] :=
  .cons (w := [⟨.symbol .atSign, p⟩, ⟨.name "x", p⟩]) (.mk .absent) .nil

variable [Inhabited σ] {front : Tokens σ}

/-- Behind declarations, the annotations of another may start. -/
theorem acceptable_atSign_of_unitForm {s : Schema σ} (h : UnitForm anyJoin front s)
    (hlimits : s.WithinLimits) (hspelled : ∀ t ∈ front, t.value.Spelled) :
    Acceptable front (.symbol .atSign) := by
  let p : σ := default
  let more : Tokens σ := [⟨.name "x", p⟩, ⟨.keyword .model, p⟩, ⟨.name "x", p⟩, ⟨.symbol .openBrace, p⟩,
    ⟨.symbol .closeBrace, p⟩]
  let d : Declaration σ := ⟨.model, "x", "x", [⟨"x", [], p⟩], [], p⟩
  have hdeclaration : DeclarationForm anyJoin (⟨.symbol .atSign, p⟩ :: more) d :=
    .mk (v := []) (w := []) (annots_x p) .model .absent .nil
  have hlast : UnitForm anyJoin (⟨.symbol .atSign, p⟩ :: more ++ []) ⟨[d]⟩ := .cons hdeclaration .nil
  have hwithin : Schema.WithinLimits ⟨[d]⟩ := withinLimits_singleton ⟨by simp [d], by simp [d]⟩
  have hall := exists_declarations_of_unitForm (s := ⟨s.declarations ++ [d]⟩)
    (Repeated.append h hlast) (withinLimits_append hlimits hwithin)
  exact acceptable_of_fillers more hall hspelled (spelled_symbol _) (by simp [Filling, more, fillers])

/-- In a body that stands open, the annotations of another field may start. -/
theorem Grammar.OpenBody.acceptable_atSign (h : OpenBody front)
    (hspelled : ∀ t ∈ front, t.value.Spelled) : Acceptable front (.symbol .atSign) := by
  let p : σ := default
  let more : Tokens σ := [⟨.name "x", p⟩, ⟨.name "x", p⟩, ⟨.symbol .colon, p⟩, ⟨.name "x", p⟩]
  let f : Field σ := ⟨"x", ⟨"x", [], false, false, p⟩, [⟨"x", [], p⟩], p⟩
  have htype : TypeForm [⟨.name "x", p⟩] ⟨"x", [], false, false, p⟩ := .plain (u := []) .absent .absent
  have hfield : FieldForm false (⟨.symbol .atSign, p⟩ :: more) f :=
    .mk (w := []) (x := []) (annots_x p) htype .nil .absent
  have hbody : BodyForm anyJoin (⟨.symbol .atSign, p⟩ :: more ++ []) [f] := .cons hfield trivial .nil
  have hall := exists_declarations_of_openBody
    (h.append hbody (by simp [f, TypeRef.depth, TypeRef.argumentsDepth])) p
  exact acceptable_of_fillers (more ++ [⟨.symbol .closeBrace, p⟩]) (by simpa using hall)
    hspelled (spelled_symbol _) (by simp [Filling, more, fillers])

theorem Grammar.OpenBody.acceptable_closeBrace (h : OpenBody front)
    (hspelled : ∀ t ∈ front, t.value.Spelled) : Acceptable front (.symbol .closeBrace) :=
  acceptable_of_fillers [] (exists_declarations_of_openBody h default) hspelled
    (spelled_symbol _) (by simp [Filling])

/-! ### Everything that is named -/

/-- A symbol is named as such, or it opens the annotations of what is named. -/
theorem Alternative.eq_of_means_symbol {a : Alternative} {s : Symbol} (h : a.Means (.symbol s)) :
    a = .symbol s ∨ s = .atSign ∧ (a = .declaration ∨ a = .field) := by
  cases a with
  | symbol mark => exact .inl (by rw [Token.symbol.inj h])
  | declaration => exact .inr ⟨by simpa [Alternative.Means, kindOf?] using h, .inl rfl⟩
  | field => exact .inr ⟨by simpa [Alternative.Means] using h, .inr rfl⟩
  | literal => cases h
  | name role => simp [Alternative.Means] at h
  | string role => simp [Alternative.Means] at h
  | keyword word => cases h

theorem Expectation.names_atSign {e : Expectation} (h : e.Names (.symbol .atSign)) :
    e = .declaration ∨ e = .fieldOrCloseBrace ∨ e = .atSign := by
  obtain ⟨a, hmem, hmeans⟩ := h
  obtain rfl | ⟨-, rfl | rfl⟩ := Alternative.eq_of_means_symbol hmeans <;>
    cases e <;> simp [alternatives] at hmem ⊢

theorem Expectation.names_closeBrace {e : Expectation} (h : e.Names (.symbol .closeBrace)) :
    e = .fieldName ∨ e = .fieldOrCloseBrace := by
  obtain ⟨a, hmem, hmeans⟩ := h
  obtain rfl | ⟨⟨⟩, -⟩ := Alternative.eq_of_means_symbol hmeans
  cases e <;> simp [alternatives] at hmem ⊢

/-- A token that opens annotations is acceptable where it is named. -/
theorem acceptable_atSign_of_atPart {e : Expectation} (h : AtPart e front)
    (hne : e ≠ .fieldName) (hspelled : ∀ t ∈ front, t.value.Spelled) :
    Acceptable front (.symbol .atSign) := by
  cases h with
  | declaration units limits => exact acceptable_atSign_of_unitForm units limits hspelled
  | body opened => exact opened.acceptable_atSign hspelled
  | field => exact absurd rfl hne

/-- A closing brace is acceptable where a field could start, unless it has. -/
theorem acceptable_closeBrace_of_atPart {e : Expectation} (h : AtPart e front)
    (hne : e ≠ .declaration) (hspelled : ∀ t ∈ front, t.value.Spelled) :
    Acceptable front (.symbol .closeBrace) ↔ ¬ (e = .fieldName ∧ FieldBegun front) := by
  refine ⟨fun hacceptable hbegun => hbegun.2.not_acceptable hacceptable, fun hnot => ?_⟩
  cases h with
  | declaration => exact absurd rfl hne
  | body opened => exact opened.acceptable_closeBrace hspelled
  | @field outer u as opened before begun =>
    obtain rfl : as = [] := by
      by_contra hne
      exact hnot ⟨rfl, outer, u, as, rfl, before, hne, begun hne⟩
    cases before
    rw [List.append_nil] at hspelled ⊢
    exact opened.acceptable_closeBrace hspelled

/-- A refusal names what is acceptable in the place of what is refused, and besides it no more than a
closing brace behind annotations that start a field. -/
theorem names_iff_acceptable {ts : Tokens σ} {e : Rejection σ} (h : declarations ts = .error e)
    (hspelled : ∀ t ∈ ts, t.value.Spelled) :
    ∃ front, ts = front ++ e.remaining ∧ ¬ Acceptable front e.found ∧
      ∀ t, e.expected.Names t → t.Spelled → (Acceptable front t ↔
        ¬ (e.expected = .fieldName ∧ t = .symbol .closeBrace ∧ FieldBegun front)) := by
  obtain ⟨hnever, front, hts, hoffers⟩ := declarations_offers ts e h
  have hfront : ∀ t ∈ front, t.value.Spelled := fun t ht =>
    hspelled t (by rw [hts]; exact List.mem_append_left _ ht)
  -- where a part could begin or end, it is known what stands in front
  have hpart : e.expected ∈ Expectation.atParts → AtPart e.expected front := by
    intro hparts
    obtain ⟨front', hts', hat⟩ := declarations_atPart h hparts fun t ht => by
      obtain ⟨lexeme, hlexeme⟩ := hspelled t ht
      exact (ne_of_spells hlexeme).2
    rwa [List.append_cancel_right (hts.symm.trans hts')]
  refine ⟨front, hts, not_acceptable_of_refusal h hspelled hts, fun t ht htspelled => ?_⟩
  by_cases hat : t = .symbol .atSign
  · subst hat
    have hkind := (Expectation.names_atSign ht).imp_right fun h =>
      h.resolve_right fun h => hnever (by simp [h])
    refine iff_of_true (acceptable_atSign_of_atPart (hpart ?_) ?_ hfront) (by simp)
    · rcases hkind with hkind | hkind <;> rw [hkind] <;> decide
    · rcases hkind with hkind | hkind <;> rw [hkind] <;> decide
  by_cases hbrace : t = .symbol .closeBrace
  · subst hbrace
    have hkind := Expectation.names_closeBrace ht
    rw [acceptable_closeBrace_of_atPart (hpart ?_) ?_ hfront]
    · simp
    · rcases hkind with hkind | hkind <;> rw [hkind] <;> decide
    · rcases hkind with hkind | hkind <;> rw [hkind] <;> decide
  · refine iff_of_true ?_ (by simp [hbrace])
    have hdrains := (hoffers ⟨t, default⟩ ⟨ht, hat, hbrace⟩).2
    refine acceptable_of_viable (viable_of_drains hdrains ?_)
    intro u hu
    obtain hu | rfl := (List.mem_append.1 hu).imp_right List.mem_singleton.1
    · exact hfront u hu
    · exact htspelled

/-! ### Errors -/

omit [Inhabited σ] in
/-- An error about a token is a refusal of the parser, and the token is the first item that is left. -/
theorem Schema.exists_refusal {s : TokenStream σ} {expected : Expectation} {found : Token} {place : σ}
    (h : Schema.ofStream s = .error (.grammatical expected found place)) :
    ∃ r behind, Reader.declarations s.tokens = .error r ∧ r.expected = expected ∧ r.found = found ∧
      r.remaining.map Placed.found ++ [s.ending.item] = ⟨.ok found, place⟩ :: behind := by
  obtain ⟨ts, ending⟩ := s
  rw [Schema.ofStream] at h
  cases hread : Reader.declarations ts with
  | ok read => cases ending <;> simp [hread] at h
  | error r =>
    simp only [hread, Except.error.injEq] at h
    obtain ⟨expected', remaining⟩ := r
    cases remaining with
    | cons t rest =>
      cases h
      exact ⟨_, _, rfl, rfl, rfl, rfl⟩
    | nil =>
      cases ending <;> cases h
      exact ⟨_, [], rfl, rfl, rfl, rfl⟩

theorem Expectation.not_names_endOfInput (e : Expectation) : ¬ e.Names .endOfInput := by
  intro h
  obtain ⟨a, -, hmeans⟩ := h
  cases a with
  | declaration => rcases hmeans with hmeans | hmeans <;> cases hmeans
  | field => obtain hmeans | ⟨n, hmeans⟩ := hmeans <;> cases hmeans
  | literal => cases hmeans
  | name role =>
    obtain ⟨n, hmeans⟩ := hmeans
    cases hmeans
  | string role =>
    obtain ⟨s, -, hmeans⟩ := hmeans
    cases hmeans
  | symbol mark => cases hmeans
  | keyword word => cases hmeans

/-- The text of an error about a token, unless it is about how deep a type nests, names what is acceptable
at its place: behind the tokens in front of it each alternative could stand, but for one. Where a field
starts with annotations, a closing brace is named behind them and is not acceptable. So the token that was
found is named exactly if it is such a brace. -/
theorem Schema.parse_error_names_acceptable {source : String} {expected : Expectation} {found : Token}
    {place : Span} (h : Schema.parse source = .error (.grammatical expected found place))
    (hnesting : expected ≠ .shallowerType) :
    expected.text = " or ".intercalate (expected.alternatives.map Alternative.text) ∧
    ∃ front behind, (TokenStream.ofSource source).items =
        front.map Placed.found ++ ⟨.ok found, place⟩ :: behind ∧
      (∀ t, expected.Names t → t.Spelled → (Acceptable front t ↔
        ¬ (expected = .fieldName ∧ t = .symbol .closeBrace ∧ FieldBegun front))) ∧
      (expected.Names found ↔
        expected = .fieldName ∧ found = .symbol .closeBrace ∧ FieldBegun front) := by
  have hspelled : ∀ t ∈ (TokenStream.ofSource source).tokens, t.value.Spelled :=
    Cursor.spelled_of_mem_stream (Cursor.ofSource source)
  obtain ⟨r, behind, hrefusal, rfl, rfl, hitems⟩ := Schema.exists_refusal h
  have : Inhabited Span := ⟨place⟩
  obtain ⟨front, hts, hoffends, hnamed⟩ := names_iff_acceptable hrefusal hspelled
  refine ⟨Expectation.text_eq_intercalate hnesting, front, behind, ?_, hnamed, fun hfound => ?_, ?_⟩
  · rw [TokenStream.items, ← hitems, ← List.append_assoc, ← List.map_append, ← hts]
  · have hfoundspelled : r.found.Spelled := by
      obtain ⟨expected, remaining⟩ := r
      cases remaining with
      | nil => exact absurd hfound expected.not_names_endOfInput
      | cons t rest => exact hspelled t (by simp [hts])
    by_contra hnot
    exact hoffends ((hnamed _ hfound hfoundspelled).2 hnot)
  · rintro ⟨hkind, hbrace, -⟩
    rw [hkind, hbrace]
    exact ⟨.symbol .closeBrace, by simp [Expectation.alternatives], rfl⟩

/-- Behind a type in brackets, both a comma and the closing bracket are named, and both are acceptable. -/
theorem Schema.parse_error_names_acceptable_types :
    Schema.parse "model A\x7bx:B<C;" =
        .error (.grammatical .closeAngle (.symbol .semicolon) ⟨13, 14, 1, 14⟩) ∧
      ∃ front behind, (TokenStream.ofSource "model A\x7bx:B<C;").items =
          front.map Placed.found ++ ⟨.ok (.symbol .semicolon), ⟨13, 14, 1, 14⟩⟩ :: behind ∧
        Acceptable front (.symbol .closeAngle) ∧ Acceptable front (.symbol .comma) := by
  have hparse : parseWithin 20 "model A\x7bx:B<C;" =
      some (.error (.grammatical .closeAngle (.symbol .semicolon) ⟨13, 14, 1, 14⟩)) := by
    cbv
  have hsource := parse_of_parseWithin 20 hparse
  obtain ⟨-, front, behind, hitems, hnamed, -⟩ := parse_error_names_acceptable hsource (by decide)
  refine ⟨hsource, front, behind, hitems, ?_, ?_⟩
  · refine (hnamed _ ⟨.symbol .closeAngle, by decide, rfl⟩ (spelled_symbol _)).2 ?_
    simp
  · refine (hnamed _ ⟨.symbol .comma, by decide, rfl⟩ (spelled_symbol _)).2 ?_
    simp

/-- Behind an annotation that starts a field a closing brace is found, named and not acceptable. -/
theorem Schema.parse_error_names_found_brace :
    Schema.parse "model A \x7b @x \x7d" =
        .error (.grammatical .fieldName (.symbol .closeBrace) ⟨13, 14, 1, 14⟩) ∧
      Expectation.fieldName.text = "field name or " ++ Token.describe (.symbol .closeBrace) ∧
      Expectation.fieldName.Names (.symbol .closeBrace) ∧
      ¬ Acceptable (bare [.keyword .model, .name "A", .symbol .openBrace, .symbol .atSign, .name "x"])
        (.symbol .closeBrace) := by
  have hparse : parseWithin 10 "model A \x7b @x \x7d" =
      some (.error (.grammatical .fieldName (.symbol .closeBrace) ⟨13, 14, 1, 14⟩)) := by
    cbv
  have hbegun : FieldBegun
      (bare [.keyword .model, .name "A", .symbol .openBrace, .symbol .atSign, .name "x"]) :=
    ⟨bare [.keyword .model, .name "A", .symbol .openBrace], _, _, rfl, annots_x (), by simp,
      .symbol .openBrace, by decide, rfl⟩
  exact ⟨parse_of_parseWithin 10 hparse, rfl, ⟨.symbol .closeBrace, by decide, rfl⟩,
    hbegun.not_acceptable⟩

end ModelIdl
