import Mathlib
import ModelIdl.Proofs.Schema.FirstOffence
import ModelIdl.Proofs.Schema.InPlace
import ModelIdl.Proofs.Schema.TypeText
import ModelIdl.Proofs.Token.Integers
import ModelIdl.Proofs.Token.ShownStrings

/-!
# ModelIdl.Proofs.Schema.AnnotationText

The text of an annotation, read back. Design points:

* **Literals one by one.** A literal of a schema is one token, and its text spells that token, if it is no
  string with a character that is not shown readably (`Literal.spells_text`).
* **The first such string is a fault,** for what stands in front of it are tokens (`Literal.faulty_listed`).
* **So the text is read back or refused.** In front of a model it is read as an annotation of the same name
  and arguments exactly if all strings in it are shown readably, and otherwise nothing is read
  (`Annot.text_reads_back_iff`). Numbers are left out, for their texts may be those of integers.
-/

namespace ModelIdl

open Grammar hiding bare

variable {σ : Type}

/-! ### Literals -/

namespace Literal

/-- The token that a literal is read from. -/
def token : Literal → Token
  | integer value => .integer value
  | number value => .number value
  | string text => .string text
  | boolean true => .keyword .truth
  | boolean false => .keyword .falsity
  | null => .keyword .null
  | name text => .name text

theorem literalForm_token (l : Literal) : LiteralForm (bare [l.token]) l := by
  cases l with
  | boolean value => cases value <;> constructor
  | _ => constructor

/-- The literal can stand in a source and is no number with a point: if it is a bare name, it is a name. -/
structure Exact (l : Literal) : Prop where
  ne_number : ∀ x, l ≠ number x
  isName : ∀ n, l = name n → IsName n

/-- If the literal is a string, its characters are shown readably. -/
def Readable (l : Literal) : Prop :=
  ∀ s, l = string s → ∀ c ∈ s.toList, Text.Readable c

theorem spells_text {l : Literal} (hexact : l.Exact) (hreadable : l.Readable) :
    Spells l.text.toList l.token := by
  cases l with
  | integer value =>
    obtain ⟨negative, digits, hne, hdigits, htext, hvalue⟩ :=
      Numeral.exists_integerText_eq_toString value.toInt
    obtain ⟨v, hv, hint⟩ := Numeral.int64?_of_fits64 (Numeral.fits64_toInt value)
    have hnothing : Numeral.NoDigitsAhead [] := ⟨by simp, fun d rest heq => by cases heq⟩
    have htoken := Numeral.token_of_integerText negative hne hdigits hnothing
    rw [hvalue, hint, Option.elim_some, Int64.toInt_inj.1 hv] at htoken
    have htextNe : Numeral.integerText negative digits ++ [] ≠ [] := by
      cases negative <;> simp [Numeral.integerText, hne]
    have hspells := ((token_eq_ok_iff htextNe).1 htoken).2.1
    rwa [← htext] at hspells
  | number value => exact absurd rfl (hexact.ne_number value)
  | string s => exact spells_shownString (hreadable s rfl)
  | boolean value =>
    cases value with
    | true => exact spells_keyword .truth
    | false => exact spells_keyword .falsity
  | null => exact spells_keyword .null
  | name n => exact spells_of_isName (hexact.isName n rfl)

/-- The texts of literals, each behind the first with a comma and a space in front. -/
def listedText (l : Literal) (rest : List Literal) : List Char :=
  l.text.toList ++ rest.flatMap fun m => ',' :: ' ' :: m.text.toList

theorem toList_intercalate (l : Literal) (rest : List Literal) :
    (", ".intercalate ((l :: rest).map text)).toList = listedText l rest := by
  induction rest generalizing l with
  | nil => simp [listedText]
  | cons m rest ih =>
    have h := ih m
    rw [List.map_cons] at h ⊢
    rw [List.map_cons, String.intercalate_cons_cons, String.toList_append, h]
    simp [listedText]

/-- A literal in front of a symbol is laid out as its token. -/
theorem lays_text {l : Literal} (hexact : l.Exact) (hreadable : l.Readable) {gap : List Char}
    (hgap : GapForm False gap) (s : Symbol) (behind : List Char) :
    Lays (gap ++ l.text.toList) [l.token] (s.char :: behind) := by
  have h := Lays.item hgap (spells_text hexact hreadable) (.nil (s.char :: behind)) (endsAt_symbol _ s behind)
  rwa [List.append_nil] at h

theorem lays_listed {l : Literal} {rest : List Literal} (hexact : ∀ m ∈ l :: rest, m.Exact)
    (hreadable : ∀ m ∈ l :: rest, m.Readable) (behind : List Char) :
    ∃ kinds, Lays (listedText l rest) kinds (')' :: behind) ∧
      Listed LiteralForm (bare kinds) (l :: rest) := by
  have hitems : ∀ m ∈ l :: rest, ∀ gap more, GapForm False gap →
      (∃ (s : Symbol) (behind : List Char), more = s.char :: behind) →
      ∃ kinds, Lays (gap ++ m.text.toList) kinds more ∧ LiteralForm (bare kinds) (id m) := by
    rintro m hm gap more hgap ⟨s, behind, rfl⟩
    exact ⟨[m.token], lays_text (hexact m hm) (hreadable m hm) hgap s behind, literalForm_token m⟩
  have hlisted := Lays.listed (fun behind => ⟨.comma, behind, rfl⟩) hitems .nil ⟨.closeParen, behind, rfl⟩
  rwa [List.map_id] at hlisted

theorem faulty_text {l : Literal} (h : ¬ l.Readable) {gap : List Char} (hgap : GapForm False gap)
    (more : List Char) : Faulty (gap ++ (l.text.toList ++ more)) := by
  cases l with
  | string s =>
    refine faulty_shownString (fun hall => h ?_) hgap more
    rintro _ ⟨⟩
    exact hall
  | _ => exact absurd (by rintro s ⟨⟩) h

/-- Literals have a fault if one of them is a string that is not shown readably. -/
theorem faulty_listed {l : Literal} {rest : List Literal} (hexact : ∀ m ∈ l :: rest, m.Exact)
    (hreadable : ¬ ∀ m ∈ l :: rest, m.Readable) {gap : List Char} (hgap : GapForm False gap)
    (more : List Char) : Faulty (gap ++ (listedText l rest ++ more)) := by
  induction rest generalizing l gap with
  | nil =>
    have hfault := faulty_text (fun hl => hreadable (List.forall_mem_singleton.2 hl)) hgap more
    simpa [listedText] using hfault
  | cons m rest ih =>
    by_cases hl : l.Readable
    · -- the fault is further behind, and the first literal and the comma are tokens in front of it
      have hrest : ¬ ∀ k ∈ m :: rest, k.Readable := fun hall =>
        hreadable (List.forall_mem_cons.2 ⟨hl, hall⟩)
      have hfault := ih (fun k hk => hexact k (.tail _ hk)) hrest gapForm_space
      have hcomma := (Lays.symbol .comma _).faulty hfault
      have hfirst := (lays_text (hexact l (.head _)) hl hgap .comma _).faulty hcomma
      simpa [listedText, Symbol.char] using hfirst
    · have hfault := faulty_text hl hgap ((m :: rest).flatMap (fun k => ',' :: ' ' :: k.text.toList) ++ more)
      simpa [listedText] using hfault

end Literal

/-! ### Annotations -/

namespace Annot

/-- All strings in the annotation are shown readably. -/
def Readable (a : Annot σ) : Prop :=
  ∀ s, Literal.string s ∈ a.arguments → ∀ c ∈ s.toList, Text.Readable c

/-- What is written behind the name of an annotation. -/
def argumentsText : List Literal → List Char
  | [] => []
  | l :: rest => '(' :: (l.listedText rest ++ [')'])

theorem toList_text (a : Annot σ) : a.text.toList = '@' :: (a.name.toList ++ argumentsText a.arguments) := by
  obtain ⟨name, arguments, place⟩ := a
  cases arguments with
  | nil => simp [text, argumentsText]
  | cons l rest => simp [text, argumentsText, ← Literal.toList_intercalate]

theorem endsNames_argumentsText (arguments : List Literal) {more : List Char} (hmore : EndsNames more) :
    EndsNames (argumentsText arguments ++ more) := by
  cases arguments with
  | nil => exact hmore
  | cons l rest => exact endsNames_symbol .openParen _

theorem lays_arguments {arguments : List Literal} (hexact : ∀ l ∈ arguments, l.Exact)
    (hreadable : ∀ l ∈ arguments, l.Readable) (more : List Char) :
    ∃ kinds, Lays (argumentsText arguments) kinds more ∧ ArgumentsForm (bare kinds) arguments := by
  cases arguments with
  | nil => exact ⟨[], .nil more, .absent⟩
  | cons l rest =>
    obtain ⟨kinds, hlays, hlisted⟩ := Literal.lays_listed hexact hreadable more
    refine ⟨.symbol .openParen :: (kinds ++ [.symbol .closeParen]), ?_, ?_⟩
    · have hall := (Lays.symbol .openParen _).append (hlays.append (.symbol .closeParen more))
      simpa [argumentsText, Symbol.char] using hall
    · rw [bare, List.map_cons, List.map_append]
      exact .listed hlisted

/-- An annotation whose strings are shown readably is laid out as tokens that its rule derives it from. -/
theorem lays_text {a : Annot σ} (hname : IsName a.name) (hexact : ∀ l ∈ a.arguments, l.Exact)
    (hreadable : a.Readable) {more : List Char} (hmore : EndsNames more) :
    ∃ kinds, Lays a.text.toList kinds more ∧ AnnotForm (bare kinds) (a.map fun _ => ()) := by
  have hliterals : ∀ l ∈ a.arguments, l.Readable := by
    rintro l hl s rfl
    exact hreadable s hl
  obtain ⟨kinds, hlays, hform⟩ := lays_arguments hexact hliterals more
  refine ⟨.symbol .atSign :: .name a.name :: kinds, ?_, .mk hform⟩
  have hnamed := Lays.item .nil (spells_of_isName hname) hlays (endsNames_argumentsText _ hmore)
  have hall := Lays.append (Lays.symbol .atSign _) hnamed
  rw [toList_text]
  simpa [Symbol.char] using hall

/-- An annotation with another string in it has a fault. -/
theorem faulty_text {a : Annot σ} (hname : IsName a.name) (hexact : ∀ l ∈ a.arguments, l.Exact)
    (hreadable : ¬ a.Readable) (more : List Char) : Faulty (a.text.toList ++ more) := by
  cases heq : a.arguments with
  | nil => exact absurd (fun s hs => by rw [heq] at hs; cases hs) hreadable
  | cons l rest =>
    rw [heq] at hexact
    have hliterals : ¬ ∀ m ∈ l :: rest, m.Readable := fun hall =>
      hreadable fun s hs => hall (.string s) (heq ▸ hs) s rfl
    have hfault := Literal.faulty_listed hexact hliterals .nil (')' :: more)
    have hopen := (Lays.symbol .openParen _).faulty hfault
    have hnamed := (Lays.single (spells_of_isName hname) (endsNames_symbol .openParen _)).faulty hopen
    have hall := (Lays.symbol .atSign _).faulty hnamed
    rw [toList_text, heq, argumentsText]
    simpa [Symbol.char] using hall

end Annot

/-! ### A model with the annotation -/

namespace Schema

/-- A source with a model without fields, and an annotation that is written so. -/
def annotatedSource (annotationText : String) : String :=
  annotationText ++ " model A \x7b\x7d"

/-- A model without fields and with the annotation, at no place. -/
def ofAnnot (a : Annot Unit) : Schema Unit :=
  ⟨[⟨.model, "A", "A", [a], [], ()⟩]⟩

theorem lays_annotatedSource {text : String} {kinds : List Token} {a : Annot Unit}
    (hlays : Lays text.toList kinds " model A \x7b\x7d".toList) (hform : AnnotForm (bare kinds) a) :
    ∃ all, Lays (annotatedSource text).toList all [] ∧ UnitForm greedyJoin (bare all) (ofAnnot a) := by
  have hA : IsName "A" := isName_of_letter rfl (by decide)
  have hclose := Lays.symbol .closeBrace []
  have hopen := Lays.item gapForm_space (.symbol .openBrace) hclose trivial
  have hnamed := Lays.item gapForm_space (spells_of_isName hA) hopen (endsAt_space _ _)
  have hmodel := Lays.item gapForm_space (spells_keyword .model) hnamed (endsAt_space _ _)
  have htail : Lays " model A \x7b\x7d".toList
      [.keyword .model, .name "A", .symbol .openBrace, .symbol .closeBrace] [] := by
    simpa [Symbol.char, Keyword.text] using hmodel
  refine ⟨kinds ++ [.keyword .model, .name "A", .symbol .openBrace, .symbol .closeBrace], ?_, ?_⟩
  · rw [annotatedSource, String.toList_append]
    exact Lays.append (by rwa [List.append_nil]) htail
  · have hfront : Repeated AnnotForm (bare kinds ++ []) [a] := .cons hform .nil
    have hunit : Repeated (DeclarationForm greedyJoin) _ _ :=
      .cons (.mk (p := ()) (q := ()) (r := ()) (s := ()) (n := "A") hfront .model .absent .nil) .nil
    simpa [UnitForm, ofAnnot, bare] using hunit

theorem ofAnnot_withinLimits (a : Annot Unit) : (ofAnnot a).WithinLimits := by
  intro d hd
  obtain rfl := List.mem_singleton.1 hd
  exact ⟨by simp, fun f hf => by cases hf⟩

/-- A source with a fault is not parsed. -/
theorem parse_of_faulty {source : String} (h : Faulty source.toList) : ∃ e, parse source = .error e := by
  cases hparse : parse source with
  | error e => exact ⟨e, rfl⟩
  | ok u =>
    obtain ⟨⟨place, hend⟩, -, -⟩ := (ofStream_eq_ok_iff (TokenStream.ofSource_names source) u).1 hparse
    obtain ⟨fault, place', hending⟩ := h .origin
    rw [TokenStream.ofSource, Cursor.ofSource, hending] at hend
    cases hend

/-- All annotations of the schema: those of its declarations, and those of their fields. -/
def annots (u : Schema σ) : List (Annot σ) :=
  u.declarations.flatMap fun d => d.annotations ++ d.fields.flatMap (·.annotations)

theorem annots_map {τ : Type} (f : σ → τ) (u : Schema σ) : (u.map f).annots = u.annots.map (Annot.map f) := by
  simp [annots, map, Declaration.map, Field.map, List.flatMap_map, List.map_flatMap]

/-- The names in an annotation that was parsed are names. -/
theorem annot_of_parse {source : String} {u : Schema Span} (h : parse source = .ok u) {a : Annot Span}
    (ha : a ∈ u.annots) : IsName a.name ∧ ∀ n, Literal.name n ∈ a.arguments → IsName n := by
  obtain ⟨d, hd, ha⟩ := List.mem_flatMap.1 ha
  obtain ⟨hamong, -⟩ := among_of_parse h hd
  rcases List.mem_append.1 ha with ha | ha
  · have hplace := annotsInPlace_of_among hamong.annotations
    exact ⟨hplace.names a ha, hplace.arguments a ha⟩
  · obtain ⟨f, hf, ha⟩ := List.mem_flatMap.1 ha
    have hplace := annotsInPlace_of_among (hamong.fields f hf).annotations
    exact ⟨hplace.names a ha, hplace.arguments a ha⟩

end Schema

namespace Annot

/-- In front of a model, the annotation's text is parsed as the model's only annotation, with the same name
and the same arguments. -/
def ReadsBack (a : Annot σ) : Prop :=
  ∃ u d b, Schema.parse (Schema.annotatedSource a.text) = .ok u ∧ u.declarations = [d] ∧
    d.annotations = [b] ∧ b.name = a.name ∧ b.arguments = a.arguments

theorem readsBack {a : Annot σ} (hname : IsName a.name) (hexact : ∀ l ∈ a.arguments, l.Exact)
    (hreadable : a.Readable) : a.ReadsBack := by
  have hmore : EndsNames " model A \x7b\x7d".toList := endsAt_space (.name "") _
  obtain ⟨kinds, hlays, hform⟩ := lays_text hname hexact hreadable hmore
  obtain ⟨all, hall, hunit⟩ := Schema.lays_annotatedSource hlays hform
  obtain ⟨u, hparse, hsame⟩ := Schema.parse_of_lays hall hunit (Schema.ofAnnot_withinLimits _)
  -- apart from places there is one declaration with one annotation, so there is with them
  have hdeclarations : u.declarations.map _ = [_] := congrArg Schema.declarations hsame
  obtain ⟨d, hd, hdsame⟩ := List.map_eq_singleton_iff.1 hdeclarations
  have hannotations : d.annotations.map _ = [_] := congrArg Declaration.annotations hdsame
  obtain ⟨b, hb, hbsame⟩ := List.map_eq_singleton_iff.1 hannotations
  exact ⟨u, d, b, hparse, hd, hb, congrArg Annot.name hbsame, congrArg Annot.arguments hbsame⟩

/-- In front of a model, the text of an annotation that was parsed, and has no number with a point, is parsed
as an annotation of the same name and arguments exactly if all characters of its strings are shown readably.
If not, it is not parsed at all. -/
theorem text_reads_back_iff {source : String} {u : Schema Span} (h : Schema.parse source = .ok u)
    {a : Annot Span} (ha : a ∈ u.annots) (hnumber : ∀ x, Literal.number x ∉ a.arguments) :
    (a.ReadsBack ↔ a.Readable) ∧
      (¬ a.Readable → ∃ e, Schema.parse (Schema.annotatedSource a.text) = .error e) := by
  obtain ⟨hname, harguments⟩ := Schema.annot_of_parse h ha
  have hexact : ∀ l ∈ a.arguments, l.Exact := by
    intro l hl
    refine ⟨?_, ?_⟩
    · rintro x rfl
      exact hnumber x hl
    · rintro n rfl
      exact harguments n hl
  have hrefused (hreadable : ¬ a.Readable) :
      ∃ e, Schema.parse (Schema.annotatedSource a.text) = .error e := by
    refine Schema.parse_of_faulty ?_
    rw [Schema.annotatedSource, String.toList_append]
    exact faulty_text hname hexact hreadable _
  refine ⟨⟨fun hback => ?_, readsBack hname hexact⟩, hrefused⟩
  by_contra hreadable
  obtain ⟨e, he⟩ := hrefused hreadable
  obtain ⟨v, _, _, hv, -⟩ := hback
  rw [he] at hv
  cases hv

/-- A model with a tab in a string of its annotation, and a null character in one of its field's. -/
def tabAndNull : Schema Unit :=
  ⟨[⟨.model, "M", "M", [⟨"a", [.string "\t", .integer (-7)], ()⟩],
    [⟨"m", ⟨"A", [], false, false, ()⟩, [⟨"c", [.string "\x00"], ()⟩], ()⟩], ()⟩]⟩

/-- The tokens that it is derived from. -/
def tabAndNullKinds : List Token :=
  [.symbol .atSign, .name "a", .symbol .openParen, .string "\t", .symbol .comma, .integer (-7),
    .symbol .closeParen, .keyword .model, .name "M", .symbol .openBrace, .symbol .atSign, .name "c",
    .symbol .openParen, .string "\x00", .symbol .closeParen, .name "m", .symbol .colon, .name "A",
    .symbol .closeBrace]

theorem unitForm_tabAndNull : UnitForm greedyJoin (bare tabAndNullKinds) tabAndNull := by
  have htab : Listed (σ := Unit) LiteralForm _ _ :=
    .more (p := ()) (.string (s := "\t") (p := ())) (.last (.integer (v := -7) (p := ())))
  have hnull : Listed (σ := Unit) LiteralForm _ _ := .last (.string (s := "\x00") (p := ()))
  have hfront : AnnotForm _ _ := .mk (n := "a") (p := ()) (q := ()) (.listed (p := ()) (q := ()) htab)
  have hback : AnnotForm _ _ := .mk (n := "c") (p := ()) (q := ()) (.listed (p := ()) (q := ()) hnull)
  have hfield : FieldForm _ _ _ := .mk (n := "m") (p := ()) (q := ()) (.cons hback .nil)
    (.plain (n := "A") (p := ()) .absent .absent) .nil .absent
  have hunit : Repeated (DeclarationForm greedyJoin) _ _ :=
    .cons (.mk (n := "M") (p := ()) (q := ()) (r := ()) (s := ()) (.cons hfront .nil) .model .absent
      (.cons hfield (.inr rfl) .nil)) .nil
  exact hunit

theorem exists_parse_tabAndNull :
    ∃ u, Schema.parse "@a(\"\t\",-7)model M\x7b@c(\"\x00\")m:A\x7d" = .ok u ∧
      u.map (fun _ => ()) = tabAndNull := by
  have hkinds : (Cursor.streamWithin 30 (.ofSource "@a(\"\t\",-7)model M\x7b@c(\"\x00\")m:A\x7d")).map
      (fun s => (s.tokens.map (·.value), s.ending)) = some (tabAndNullKinds, .finished ⟨29, 29, 1, 30⟩) := by
    cbv
  obtain ⟨⟨ts, ending⟩, hstream, hsame⟩ := Option.map_eq_some_iff.1 hkinds
  simp only [Prod.mk.injEq] at hsame
  obtain ⟨htokens, rfl⟩ := hsame
  refine Schema.parse_of_bare (Cursor.stream_of_streamWithin hstream)
    (by rw [htokens]; exact unitForm_tabAndNull) ?_
  intro d hd
  obtain rfl := List.mem_singleton.1 hd
  refine ⟨by decide, fun f hf => ?_⟩
  obtain rfl := List.mem_singleton.1 hf
  exact Nat.zero_le _

/-- A tab in a string is read back, at a declaration, and a null character at a field is not. -/
theorem text_reads_back_iff_tab_and_null :
    ∃ u, Schema.parse "@a(\"\t\",-7)model M\x7b@c(\"\x00\")m:A\x7d" = .ok u ∧
      (∃ a ∈ u.annots, a.arguments = [.string "\t", .integer (-7)] ∧ a.ReadsBack) ∧
      ∃ a ∈ u.annots, a.arguments = [.string "\x00"] ∧ ¬ a.ReadsBack ∧
        ∃ e, Schema.parse (Schema.annotatedSource a.text) = .error e := by
  obtain ⟨u, hparse, hsame⟩ := exists_parse_tabAndNull
  have hannots : u.annots.map (Annot.map fun _ => ()) = tabAndNull.annots := by
    rw [← hsame, Schema.annots_map]
  obtain ⟨a, _, hall, ha, hrest⟩ := List.map_eq_cons_iff.1 hannots
  obtain ⟨c, rfl, hc⟩ := List.map_eq_singleton_iff.1 hrest
  have harguments : a.arguments = [.string "\t", .integer (-7)] := congrArg Annot.arguments ha
  have hcarguments : c.arguments = [.string "\x00"] := congrArg Annot.arguments hc
  have hamem : a ∈ u.annots := by simp [hall]
  have hcmem : c ∈ u.annots := by simp [hall]
  obtain ⟨hback, -⟩ := text_reads_back_iff hparse hamem (by simp [harguments])
  obtain ⟨hlost, hrefused⟩ := text_reads_back_iff hparse hcmem (by simp [hcarguments])
  have htab : a.Readable := by
    intro s hs
    obtain rfl : s = "\t" := by simpa [harguments] using hs
    exact List.forall_mem_singleton.2 (by decide)
  have hnull : ¬ c.Readable := fun h =>
    absurd (h "\x00" (by simp [hcarguments]) '\x00' (.head _)) (by decide)
  exact ⟨u, hparse, ⟨a, hamem, harguments, hback.2 htab⟩, c, hcmem, hcarguments,
    fun h => hnull (hlost.1 h), hrefused hnull⟩

end Annot

end ModelIdl
