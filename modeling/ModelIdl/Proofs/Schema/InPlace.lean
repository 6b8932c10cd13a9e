import Mathlib
import ModelIdl.Proofs.Schema.Recognition
import ModelIdl.Proofs.Schema.Sites
import ModelIdl.Proofs.Token.Requests

/-!
# ModelIdl.Proofs.Schema.InPlace

A schema that was read from a source stands in that source: each of its places is that of a token, and cuts
the keyword, the name or the `@` out of the source that the placed thing was read from. Its lists are in the
order of the source, and declarations do not overlap (`Schema.parse_in_place`). Design points:

* **Tokens first.** Names, keywords and symbols are written in one way only, so a token's place says what
  stands there (`TokenStream.slice_of_mem`), and the tokens of a source are in order.
* **Trees stand among their tokens,** and so what holds of tokens holds of them. Nothing here looks at how a
  schema is read.
-/

namespace ModelIdl

/-! ### Names and the texts of tokens -/

/-- A text that can be a name: a first character, further characters, and not a keyword. -/
structure IsName (text : String) : Prop where
  characters : ∃ c cs, text.toList = c :: cs ∧ Scan.startsName c = true ∧
    ∀ d ∈ cs, Scan.continuesName d = true
  ne_keyword : ∀ k : Keyword, text ≠ k.text

/-- The text of a token that can be written in one way only. -/
def Token.onlyText? : Token → Option String
  | .name text => some text
  | .keyword word => some word.text
  | .symbol mark => some (String.singleton mark.char)
  | _ => none

theorem onlyText?_of_token? {n : Numeral} {t : Token} (h : n.token? = some t) : t.onlyText? = none := by
  unfold Numeral.token? at h
  split at h
  · cases h
    rfl
  · obtain ⟨_, -, rfl⟩ := Option.map_eq_some_iff.1 h
    rfl

theorem ofList_of_spells {lexeme : List Char} {t : Token} (h : Spells lexeme t) {text : String}
    (htext : t.onlyText? = some text) : String.ofList lexeme = text := by
  cases h with
  | symbol s =>
    cases htext
    rfl
  | string form => cases htext
  | numeral form value =>
    rw [onlyText?_of_token? value] at htext
    cases htext
  | word first rest =>
    unfold Scan.wordToken at htext
    split at htext
    · rename_i hkeyword
      cases htext
      exact (Keyword.ofText?_eq_some_iff.1 hkeyword).symm
    · cases htext
      rfl

theorem isName_of_spells {lexeme : List Char} {t : Token} (h : Spells lexeme t) {n : String}
    (hn : t = .name n) : IsName n := by
  cases h with
  | symbol s => cases hn
  | string form => cases hn
  | numeral form value =>
    have hnone := onlyText?_of_token? value
    rw [hn] at hnone
    cases hnone
  | @word c cs first rest =>
    unfold Scan.wordToken at hn
    split at hn
    · cases hn
    · rename_i hkeyword
      cases hn
      refine ⟨⟨c, cs, String.toList_ofList, first, rest⟩, ?_⟩
      intro k hk
      rw [Keyword.ofText?_eq_some_iff.2 hk.symm] at hkeyword
      cases hkeyword

/-- One letter is a name, for no keyword has only one. -/
theorem isName_of_letter {n : String} {c : Char} (h : n.toList = [c])
    (hc : Scan.startsName c = true) : IsName n := by
  refine ⟨⟨c, [], h, hc, by simp⟩, ?_⟩
  rintro k rfl
  have hlength : k.text.toList.length = 1 := congrArg List.length h
  revert hlength
  cases k <;> decide

theorem spells_of_isName {n : String} (h : IsName n) : Spells n.toList (.name n) := by
  obtain ⟨c, cs, hlist, hfirst, hrest⟩ := h.characters
  have hword : Scan.wordToken n.toList = .name n := by
    have hnone : Keyword.ofText? n = none := by
      rw [Option.eq_none_iff_forall_ne_some]
      exact fun k hk => h.ne_keyword k (Keyword.ofText?_eq_some_iff.1 hk).symm
    simp only [Scan.wordToken, String.ofList_toList, hnone]
  rw [← hword, hlist]
  exact .word hfirst hrest

/-! ### The tokens of a source -/

/-- The stretches start one behind the other. -/
def Span.Ascending (places : List Span) : Prop :=
  places.Pairwise fun s t => s.start < t.start

namespace TokenStream

variable {source : String}

/-- A token of a source is spelled at its place, where there is something. -/
theorem spells_of_mem {t : Placed Span Token} (h : t ∈ (ofSource source).tokens) :
    ∃ lexeme, Spells lexeme t.value ∧ t.place.slice source = String.ofList lexeme ∧
      t.place.start < t.place.stop := by
  obtain ⟨_, hspelled⟩ := Cursor.spelled_of_mem_stream _ t h
  have hend : t.value ≠ .endOfInput := (ne_of_spells hspelled).1
  -- the token is what some step finds
  obtain ⟨n, hfound⟩ := Cursor.found_prefix_walk (Cursor.ofSource source)
  obtain ⟨m, hstep⟩ := Cursor.exists_ahead_of_mem_walk (hfound.subset (List.mem_map_of_mem h))
  obtain ⟨before, hstands⟩ := (Cursor.standsBehind_ofSource source).ahead m
  have hvalue : ((Cursor.ofSource source).ahead m).lexeme.value = .ok t.value := by rw [← hstep]; rfl
  have hplace : ((Cursor.ofSource source).ahead m).lexeme.place = t.place := by rw [← hstep]; rfl
  refine ⟨_, (Cursor.spells_of_lexeme hvalue hend).1, ?_, ?_⟩
  · have hslice := hstands.cuts.lexeme
    rw [hplace] at hslice
    rw [Span.slice, hslice]
    rfl
  · rw [← hplace]
    refine hstands.inPlace.nonempty ?_
    rw [hvalue]
    simpa using hend

/-- The place of a name, a keyword or a symbol cuts its text out of the source. -/
theorem slice_of_mem {t : Placed Span Token} (h : t ∈ (ofSource source).tokens) {text : String}
    (htext : t.value.onlyText? = some text) : t.place.slice source = text := by
  obtain ⟨lexeme, hspells, hslice, -⟩ := spells_of_mem h
  rw [hslice, ofList_of_spells hspells htext]

theorem isName_of_mem {n : String} (h : ∃ p, ⟨.name n, p⟩ ∈ (ofSource source).tokens) : IsName n := by
  obtain ⟨p, h⟩ := h
  obtain ⟨lexeme, hspells, -⟩ := spells_of_mem h
  exact isName_of_spells hspells rfl

/-- Each token of a source ends before the next starts. -/
theorem pairwise_ofSource (source : String) :
    (ofSource source).tokens.Pairwise fun t u => t.place.stop ≤ u.place.start := by
  obtain ⟨n, hfound⟩ := Cursor.found_prefix_walk (Cursor.ofSource source)
  exact List.pairwise_map.1 ((Cursor.walk_pairwise n _).sublist hfound.sublist)

/-- What stands at tokens in the order of the source starts in that order. -/
theorem ascending_of_sites {α : Type} {site : α → Placed Span Token} {as : List α}
    (h : (as.map site).Sublist (ofSource source).tokens) :
    Span.Ascending (as.map fun a => (site a).place) := by
  have hsites : (as.map site).Pairwise fun t u => t.place.start < u.place.start := by
    refine ((pairwise_ofSource source).sublist h).imp_of_mem ?_
    intro t u ht _ hle
    obtain ⟨-, -, -, hlt⟩ := spells_of_mem (h.subset ht)
    exact Nat.lt_of_lt_of_le hlt hle
  rw [List.pairwise_map] at hsites
  exact List.pairwise_map.2 hsites

end TokenStream

/-! ### Trees in their source -/

/-- Each annotation is placed at its `@`, and one behind the other. The names in them are names. -/
structure AnnotsInPlace (source : String) (as : List (Annot Span)) : Prop where
  slice : ∀ a ∈ as, a.place.slice source = "@"
  names : ∀ a ∈ as, IsName a.name
  arguments : ∀ a ∈ as, ∀ n, Literal.name n ∈ a.arguments → IsName n
  ascending : Span.Ascending (as.map (·.place))

/-- The type is placed at its name, and its arguments one behind the other. -/
structure TypeRef.InPlace (source : String) (t : TypeRef Span) : Prop where
  slice : t.place.slice source = t.name
  name : IsName t.name
  ascending : Span.Ascending (t.arguments.map (·.place))

/-- The field is placed at its name, and its type and its annotations are in place, at every level. -/
structure Field.InPlace (source : String) (f : Field Span) : Prop where
  slice : f.place.slice source = f.name
  name : IsName f.name
  types : ∀ t ∈ f.type.parts, t.InPlace source
  annotations : AnnotsInPlace source f.annotations

/-- The declaration is placed at its keyword, and its fields and annotations are in place. -/
structure Declaration.InPlace (source : String) (d : Declaration Span) : Prop where
  slice : d.place.slice source = d.kind.text
  name : IsName d.name
  logicalName : d.logicalName ≠ ""
  annotations : AnnotsInPlace source d.annotations
  fields : ∀ f ∈ d.fields, f.InPlace source
  ascending : Span.Ascending (d.fields.map (·.place))

open Grammar TokenStream

variable {source : String}

theorem annotsInPlace_of_among {as : List (Annot Span)}
    (h : AnnotsAmong (TokenStream.ofSource source).tokens as) : AnnotsInPlace source as where
  slice _ ha := slice_of_mem (h.sites.subset (List.mem_map_of_mem ha)) rfl
  names a ha := isName_of_mem (h.names a ha)
  arguments a ha n hn := isName_of_mem (h.arguments a ha n hn)
  ascending := ascending_of_sites h.sites

theorem typeInPlace_of_among {f : Field Span} (h : FieldAmong (TokenStream.ofSource source).tokens f)
    {t : TypeRef Span} (ht : t ∈ f.type.parts) : t.InPlace source := by
  have hparts : (f.type.parts.map TypeRef.site).Sublist (TokenStream.ofSource source).tokens :=
    (List.sublist_cons_self _ _).trans h.sites
  have hmem : t.site ∈ (TokenStream.ofSource source).tokens :=
    hparts.subset (List.mem_map_of_mem ht)
  have harguments := ((TypeRef.arguments_sublist_of_mem ht).map TypeRef.site).trans hparts
  exact ⟨slice_of_mem hmem rfl, isName_of_mem ⟨_, hmem⟩, ascending_of_sites harguments⟩

theorem fieldInPlace_of_among {f : Field Span}
    (h : FieldAmong (TokenStream.ofSource source).tokens f) : f.InPlace source := by
  have hmem : f.site ∈ (TokenStream.ofSource source).tokens := h.sites.subset (.head _)
  exact ⟨slice_of_mem hmem rfl, isName_of_mem ⟨_, hmem⟩, fun _ ht => typeInPlace_of_among h ht,
    annotsInPlace_of_among h.annotations⟩

theorem declarationInPlace_of_among {d : Declaration Span}
    (h : DeclarationAmong (TokenStream.ofSource source).tokens d) (hnamed : d.logicalName ≠ "") :
    d.InPlace source where
  slice := slice_of_mem h.site (congrArg some d.kind.text_keyword)
  name := isName_of_mem h.name
  logicalName := hnamed
  annotations := annotsInPlace_of_among h.annotations
  fields f hf := fieldInPlace_of_among (h.fields f hf)
  ascending := ascending_of_sites h.sites

/-- A declaration that was read from a source is made of its tokens, and is within the limits. -/
theorem Schema.among_of_parse {u : Schema Span} (h : Schema.parse source = .ok u) {d : Declaration Span}
    (hd : d ∈ u.declarations) :
    DeclarationAmong (TokenStream.ofSource source).tokens d ∧ d.WithinLimits := by
  rw [Schema.parse, Schema.ofStream_eq_ok_iff (TokenStream.ofSource_names source)] at h
  obtain ⟨-, hunit, hlimits⟩ := h
  obtain ⟨v, hv, hform⟩ := hunit.exists_of_mem hd
  exact ⟨(declarationAmong_of_declarationForm hform).mono hv, hlimits d hd⟩

/-- A schema that was read from a source is placed at tokens of that source. All that is placed in it cuts
its keyword, its name or its `@` out of the source, all names are names, and no logical name is empty. Each
list in it is in the order of the source, and each declaration ends before the next starts, annotations
included. -/
theorem Schema.parse_in_place {u : Schema Span} (h : Schema.parse source = .ok u) :
    (∀ s ∈ u.places, ∃ t ∈ (TokenStream.ofSource source).tokens, t.place = s) ∧
    (∀ d ∈ u.declarations, d.InPlace source) ∧
    Span.Ascending (u.declarations.map (·.place)) ∧
    u.declarations.Pairwise fun d e => ∀ s ∈ d.places, ∀ t ∈ e.places, s.stop ≤ t.start := by
  rw [Schema.parse, Schema.ofStream_eq_ok_iff (TokenStream.ofSource_names source)] at h
  obtain ⟨-, hunit, hlimits⟩ := h
  have hamong : ∀ d ∈ u.declarations, DeclarationAmong (TokenStream.ofSource source).tokens d := by
    intro d hd
    obtain ⟨v, hv, hform⟩ := hunit.exists_of_mem hd
    exact (declarationAmong_of_declarationForm hform).mono hv
  refine ⟨?_, fun d hd => declarationInPlace_of_among (hamong d hd) (hlimits d hd).named, ?_, ?_⟩
  · intro s hs
    obtain ⟨d, hd, hs⟩ := List.mem_flatMap.1 hs
    exact (hamong d hd).places s hs
  · exact ascending_of_sites
      (hunit.sites_sublist fun hform => (declarationAmong_of_declarationForm hform).site)
  · refine hunit.pairwise ?_ (pairwise_ofSource source)
    intro v w d e hd he hbefore s hs t ht
    obtain ⟨x, hx, rfl⟩ := (declarationAmong_of_declarationForm hd).places s hs
    obtain ⟨y, hy, rfl⟩ := (declarationAmong_of_declarationForm he).places t ht
    exact hbefore x hx y hy

/-- A schema of two lines: `model A{é:B<C,D>}` and `@i model E{}`. -/
def Schema.twoLines : Schema Span :=
  ⟨[⟨.model, "A", "A", [],
      [⟨"é", ⟨"B", [⟨"C", [], false, false, ⟨13, 14, 1, 13⟩⟩, ⟨"D", [], false, false, ⟨15, 16, 1, 15⟩⟩],
        false, false, ⟨11, 12, 1, 11⟩⟩, [], ⟨8, 10, 1, 9⟩⟩], ⟨0, 5, 1, 1⟩⟩,
    ⟨.model, "E", "E", [⟨"i", [], ⟨19, 20, 2, 1⟩⟩], [], ⟨22, 27, 2, 4⟩⟩]⟩

/-- A type with two arguments, a name of two bytes, and an annotation in front of the second line. -/
theorem Schema.parse_in_place_two_lines :
    Schema.parse "model A{é:B<C,D>}\n@i model E{}" = .ok twoLines ∧
      (∀ s ∈ twoLines.places,
        ∃ t ∈ (TokenStream.ofSource "model A{é:B<C,D>}\n@i model E{}").tokens, t.place = s) ∧
      (∀ d ∈ twoLines.declarations, d.InPlace "model A{é:B<C,D>}\n@i model E{}") ∧
      Span.Ascending (twoLines.declarations.map (·.place)) ∧
      twoLines.declarations.Pairwise fun d e => ∀ s ∈ d.places, ∀ t ∈ e.places, s.stop ≤ t.start := by
  have hparse : parseWithin 20 "model A{é:B<C,D>}\n@i model E{}" = some (.ok twoLines) := by
    cbv
  exact ⟨parse_of_parseWithin 20 hparse, parse_in_place (parse_of_parseWithin 20 hparse)⟩

end ModelIdl
