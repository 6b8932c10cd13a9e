import Mathlib
import ModelIdl.Proofs.Schema.FirstOffence
import ModelIdl.Proofs.Schema.InPlace
import ModelIdl.Proofs.Token.Layout

/-!
# ModelIdl.Proofs.Schema.TypeText

The text of a type, read back. A field of a type with that text is parsed as a field of that type, apart from
places, if the names in the type are names and it is not nested too deep. Every type that was parsed is so,
and so is each type inside it (`TypeRef.text_parses_back`). Design points:

* **The text is lexemes.** A type's text is laid out as the tokens of the type's own rule, whatever gap stands
  in front of it and whatever stands behind it that goes on with no name (`TypeRef.LaidOut`). This follows the
  type, from the arguments to what they are arguments of (`TypeRef.byArguments`).
* **Equal texts are parsed alike.** That equal texts are those of equal types is not looked for in the texts:
  both types are what the one text is parsed as (`TypeRef.unplaced_eq_of_text_eq`).
-/

namespace ModelIdl

open Grammar hiding bare

variable {σ τ : Type}

/-! ### Texts that are laid out -/

/-- Texts one behind the other, each behind the first with a comma and a space in front, are a list, if each
of them is an item in front of a comma, and in front of what stands behind the list. -/
theorem Lays.listed {α β : Type} {text : α → List Char} {item : Tokens Unit → β → Prop} {tree : α → β}
    {Ends : List Char → Prop} (hcomma : ∀ more, Ends (',' :: more)) {a : α} {rest : List α}
    (h : ∀ b ∈ a :: rest, ∀ gap more, GapForm False gap → Ends more →
      ∃ kinds, Lays (gap ++ text b) kinds more ∧ item (bare kinds) (tree b))
    {gap more : List Char} (hgap : GapForm False gap) (hmore : Ends more) :
    ∃ kinds, Lays (gap ++ (text a ++ rest.flatMap fun b => ',' :: ' ' :: text b)) kinds more ∧
      Listed item (bare kinds) ((a :: rest).map tree) := by
  induction rest generalizing a gap with
  | nil =>
    obtain ⟨kinds, hlays, hform⟩ := h a (.head _) gap more hgap hmore
    exact ⟨kinds, by simpa using hlays, .last hform⟩
  | cons b rest ih =>
    obtain ⟨kinds', hlays', hform'⟩ := ih (fun c hc => h c (.tail _ hc)) gapForm_space
    obtain ⟨kinds, hlays, hform⟩ := h a (.head _) gap _ hgap (hcomma _)
    refine ⟨kinds ++ ([.symbol .comma] ++ kinds'), ?_, ?_⟩
    · have hall := Lays.append hlays (Lays.append (Lays.symbol .comma _) hlays')
      simpa [Symbol.char] using hall
    · rw [bare_append, bare_append]
      exact .more hform hform'

/-- A source that is laid out as tokens is parsed as what the grammar derives from them without places. -/
theorem Schema.parse_of_lays {source : String} {kinds : List Token} {u : Schema Unit}
    (hlays : Lays source.toList kinds []) (hunit : UnitForm greedyJoin (bare kinds) u)
    (hlimits : u.WithinLimits) : ∃ v, Schema.parse source = .ok v ∧ v.map (fun _ => ()) = u := by
  obtain ⟨l, htext, hgaps, hwrites⟩ := hlays.exists_layout .nil
  obtain ⟨ts, hstream, hkinds, -⟩ := Cursor.stream_of_layout hgaps hwrites .origin
  rw [htext, List.append_nil] at hstream
  exact Schema.parse_of_bare hstream (by rwa [hkinds]) hlimits

namespace TypeRef

/-! ### Names and places -/

/-- The type at no place. -/
def unplaced (t : TypeRef σ) : TypeRef Unit :=
  t.map fun _ => ()

/-- The names in the type, at every level, are names. -/
def WellNamed (t : TypeRef σ) : Prop :=
  ∀ u ∈ t.parts, IsName u.name

theorem WellNamed.of_mem_parts {t u : TypeRef σ} (h : t.WellNamed) (hu : u ∈ t.parts) :
    u.WellNamed :=
  fun v hv => h v ((parts_sublist_of_mem hu).subset hv)

theorem WellNamed.of_mem {t u : TypeRef σ} (h : t.WellNamed) (hu : u ∈ t.arguments) : u.WellNamed :=
  h.of_mem_parts (mem_parts_iff.2 (.inr ⟨u, hu, mem_parts_self u⟩))

/-! ### The lexemes of a type -/

/-- Behind any gap, and wherever no name goes on behind it, the type's text is laid out as tokens that its rule
derives it from. -/
def LaidOut (t : TypeRef σ) : Prop :=
  ∀ gap more, GapForm False gap → EndsNames more →
    ∃ kinds, Lays (gap ++ t.text.toList) kinds more ∧ TypeForm (bare kinds) t.unplaced

/-- What is written behind the name and the arguments of a type. -/
def marks (array optional : Bool) : List Char :=
  (if array then ['[', ']'] else []) ++ (if optional then ['?'] else [])

theorem toList_text (t : TypeRef σ) : t.text.toList =
    t.name.toList ++ (argumentsText t.arguments).toList ++ marks t.array t.optional := by
  obtain ⟨name, arguments, array, optional, place⟩ := t
  cases array <;> cases optional <;> simp [text, marks]

theorem endsNames_marks (array optional : Bool) {more : List Char} (hmore : EndsNames more) :
    EndsNames (marks array optional ++ more) := by
  cases array with
  | true => exact endsNames_symbol .openBracket _
  | false =>
    cases optional with
    | true => exact endsNames_symbol .question _
    | false => exact hmore

theorem lays_marks (array optional : Bool) (more : List Char) :
    ∃ kinds kinds', Lays (marks array optional) (kinds ++ kinds') more ∧
      ArrayForm (bare kinds) array ∧ OptionalForm (bare kinds') optional := by
  have harray (more : List Char) : ∃ kinds, Lays (if array then ['[', ']'] else []) kinds more ∧
      ArrayForm (bare kinds) array := by
    cases array with
    | false => exact ⟨[], .nil more, .absent⟩
    | true =>
      exact ⟨[.symbol .openBracket, .symbol .closeBracket],
        (Lays.symbol .openBracket _).append (.symbol .closeBracket more), .present⟩
  have hoptional : ∃ kinds, Lays (if optional then ['?'] else []) kinds more ∧
      OptionalForm (bare kinds) optional := by
    cases optional with
    | false => exact ⟨[], .nil more, .absent⟩
    | true => exact ⟨[.symbol .question], .symbol .question more, .present⟩
  obtain ⟨kinds', hlays', hform'⟩ := hoptional
  obtain ⟨kinds, hlays, hform⟩ := harray _
  exact ⟨kinds, kinds', hlays.append hlays', hform, hform'⟩

/-- The arguments behind the first, one by one. -/
theorem toList_furtherText (rest : List (TypeRef σ)) :
    (furtherText rest).toList = rest.flatMap fun t => ',' :: ' ' :: t.text.toList := by
  induction rest with
  | nil => rfl
  | cons t rest ih => simp [furtherText, ih]

/-- The text of a type is laid out as the tokens of the type, if its names are names. -/
theorem laidOut (t : TypeRef σ) (hnamed : t.WellNamed) : t.LaidOut := by
  induction t using byArguments with
  | step t ih =>
    have hname := spells_of_isName (hnamed t t.mem_parts_self)
    have harguments : ∀ u ∈ t.arguments, u.LaidOut := fun u hu => ih u hu (hnamed.of_mem hu)
    intro gap more hgap hmore
    have hends := endsNames_marks t.array t.optional hmore
    obtain ⟨kinds, kinds', hmarks, hmark, htail⟩ := lays_marks t.array t.optional more
    rw [toList_text, unplaced, map_eq]
    cases heq : t.arguments with
    | nil =>
      refine ⟨.name t.name :: (kinds ++ kinds'), ?_, ?_⟩
      · simpa [argumentsText] using Lays.item hgap hname hmarks hends
      · rw [bare, List.map_cons, List.map_append]
        exact .plain hmark htail
    | cons u rest =>
      rw [heq] at harguments
      obtain ⟨inner, hinner, hlisted⟩ := Lays.listed (endsNames_symbol .comma) harguments .nil
        (endsNames_symbol .closeAngle (marks t.array t.optional ++ more))
      refine ⟨.name t.name :: .symbol .openAngle ::
        (inner ++ .symbol .closeAngle :: (kinds ++ kinds')), ?_, ?_⟩
      · have hclose := (Lays.symbol .closeAngle _).append hmarks
        have hopen := (Lays.symbol .openAngle _).append (hinner.append hclose)
        have hall := Lays.item hgap hname hopen (endsNames_symbol .openAngle _)
        simpa [argumentsText, toList_furtherText, Symbol.char] using hall
      · simp only [bare, List.map_cons, List.map_append]
        exact .generic hlisted hmark htail

end TypeRef

/-! ### A field of the type -/

/-- A source with a model of one field, whose type is written so. -/
def Schema.fieldSource (typeText : String) : String :=
  "model A \x7b x: " ++ typeText ++ " \x7d"

/-- A model of one field of the type, at no place. -/
def Schema.ofField (type : TypeRef Unit) : Schema Unit :=
  ⟨[⟨.model, "A", "A", [], [⟨"x", type, [], ()⟩], ()⟩]⟩

theorem Schema.lays_fieldSource {t : TypeRef σ} (h : t.LaidOut) :
    ∃ kinds, Lays (Schema.fieldSource t.text).toList kinds [] ∧
      UnitForm greedyJoin (bare kinds) (Schema.ofField t.unplaced) := by
  have hA : IsName "A" := isName_of_letter rfl (by decide)
  have hx : IsName "x" := isName_of_letter rfl (by decide)
  obtain ⟨kinds, htype, hform⟩ := h [' '] [' ', '}'] gapForm_space (endsAt_space (.name "") _)
  have hclose : Lays [' ', '}'] [.symbol .closeBrace] [] :=
    .item gapForm_space (.symbol .closeBrace) (.nil []) trivial
  have hcolon := (Lays.symbol .colon _).append (htype.append hclose)
  have hfield := Lays.item gapForm_space (spells_of_isName hx) hcolon (endsNames_symbol .colon _)
  have hbody := Lays.item gapForm_space (.symbol .openBrace) hfield trivial
  have hnamed := Lays.item gapForm_space (spells_of_isName hA) hbody (endsAt_space _ _)
  have hmodel := Lays.item .nil (spells_keyword .model) hnamed (endsAt_space _ _)
  refine ⟨_, by simpa [Schema.fieldSource, Symbol.char, Keyword.text] using hmodel, ?_⟩
  have hfieldForm : FieldForm false _ _ := .mk (p := ()) (q := ()) (n := "x") .nil hform .nil .absent
  have hbodyForm : BodyForm greedyJoin _ _ := .cons hfieldForm (.inr rfl) .nil
  have hunit : Repeated (DeclarationForm greedyJoin) _ _ :=
    .cons (.mk (p := ()) (q := ()) (r := ()) (s := ()) (n := "A") .nil .model .absent hbodyForm) .nil
  simpa [UnitForm, ofField, bare] using hunit

/-- The declaration is within the limits if the type is not nested too deep. -/
theorem Schema.ofField_withinLimits {type : TypeRef Unit} (h : type.depth ≤ maxTypeDepth) :
    (Schema.ofField type).WithinLimits := by
  intro d hd
  obtain rfl := List.mem_singleton.1 hd
  refine ⟨by simp, fun f hf => ?_⟩
  obtain rfl := List.mem_singleton.1 hf
  exact h

namespace TypeRef

/-- A field with the text of the type is parsed, as a field of the type. -/
def ParsesBack (t : TypeRef σ) : Prop :=
  ∃ u, Schema.parse (Schema.fieldSource t.text) = .ok u ∧
    u.map (fun _ => ()) = Schema.ofField t.unplaced

theorem parsesBack (t : TypeRef σ) (hnamed : t.WellNamed) (hdepth : t.depth ≤ maxTypeDepth) :
    t.ParsesBack := by
  obtain ⟨kinds, hlays, hunit⟩ := Schema.lays_fieldSource (t.laidOut hnamed)
  refine Schema.parse_of_lays hlays hunit (Schema.ofField_withinLimits ?_)
  rwa [unplaced, depth_map]

/-- Types that parse back are equal, apart from places, if their texts are. -/
theorem unplaced_eq_of_text_eq {t : TypeRef σ} {u : TypeRef τ} (ht : t.ParsesBack)
    (hu : u.ParsesBack) (h : t.text = u.text) : t.unplaced = u.unplaced := by
  obtain ⟨s, hs, hsame⟩ := ht
  obtain ⟨s', hs', hsame'⟩ := hu
  rw [h, hs'] at hs
  cases hs
  rw [hsame'] at hsame
  simpa [Schema.ofField] using hsame.symm

/-- A type inside the type of a field that was parsed has names for names, and is not nested too deep. -/
theorem wellNamed_of_parse {source : String} {u : Schema Span} (h : Schema.parse source = .ok u)
    {d : Declaration Span} (hd : d ∈ u.declarations) {f : Field Span} (hf : f ∈ d.fields)
    {t : TypeRef Span} (ht : t ∈ f.type.parts) : t.WellNamed ∧ t.depth ≤ maxTypeDepth := by
  obtain ⟨hamong, hlimits⟩ := Schema.among_of_parse h hd
  have hnamed : f.type.WellNamed := fun v hv => (typeInPlace_of_among (hamong.fields f hf) hv).name
  exact ⟨hnamed.of_mem_parts ht, Nat.le_trans (depth_le_of_mem_parts ht) (hlimits.shallow f hf)⟩

/-- A field with the text of a type is parsed as a field of the type, apart from places, if the names in the
type are names and it is not nested too deep. The types of a schema that was parsed are so, at every level.
So types of equal texts are equal, apart from places. -/
theorem text_parses_back :
    (∀ (σ : Type) (t : TypeRef σ), t.WellNamed → t.depth ≤ maxTypeDepth → t.ParsesBack) ∧
    (∀ (source : String) (u : Schema Span), Schema.parse source = .ok u →
      ∀ d ∈ u.declarations, ∀ f ∈ d.fields, ∀ t ∈ f.type.parts,
        t.WellNamed ∧ t.depth ≤ maxTypeDepth ∧ t.ParsesBack) ∧
    ∀ (σ τ : Type) (t : TypeRef σ) (u : TypeRef τ), t.WellNamed → t.depth ≤ maxTypeDepth →
      u.WellNamed → u.depth ≤ maxTypeDepth → t.text = u.text → t.unplaced = u.unplaced := by
  refine ⟨fun σ t => t.parsesBack, ?_, ?_⟩
  · intro source u hparse d hd f hf t ht
    obtain ⟨hnamed, hdepth⟩ := wellNamed_of_parse hparse hd hf ht
    exact ⟨hnamed, hdepth, t.parsesBack hnamed hdepth⟩
  · intro σ τ t u htnamed htdepth hunamed hudepth htext
    exact unplaced_eq_of_text_eq (t.parsesBack htnamed htdepth) (u.parsesBack hunamed hudepth) htext

/-- A type with so many angle brackets open around its innermost part. -/
def nested : Nat → TypeRef Unit
  | 0 => ⟨"A", [], false, false, ()⟩
  | n + 1 => ⟨"A", [nested n], true, true, ()⟩

theorem depth_nested (n : Nat) : (nested n).depth = n := by
  induction n with
  | zero => rfl
  | succ n ih => simp [nested, depth, argumentsDepth, ih]

theorem wellNamed_nested (n : Nat) : (nested n).WellNamed := by
  have hA : IsName "A" := isName_of_letter rfl (by decide)
  intro u hu
  induction n with
  | zero =>
    obtain rfl := List.mem_singleton.1 hu
    exact hA
  | succ n ih =>
    rcases mem_parts_iff.1 hu with rfl | ⟨a, ha, hu⟩
    · exact hA
    · obtain rfl := List.mem_singleton.1 ha
      exact ih hu

/-- A type that is nested as deep as a type may be, and one that was written with other spaces. -/
theorem text_parses_back_nested :
    (nested 64).ParsesBack ∧ ∃ u, Schema.parse "model M\x7bm:A< A >[ ]?\x7d" = .ok u ∧
      ∃ d ∈ u.declarations, ∃ f ∈ d.fields, f.type.ParsesBack ∧ f.type.text = (nested 1).text ∧
        f.type.unplaced = (nested 1).unplaced := by
  obtain ⟨hback, hparsed, hequal⟩ := text_parses_back
  have hparse : Schema.parseWithin 30 "model M\x7bm:A< A >[ ]?\x7d" = some (.ok
      ⟨[⟨.model, "M", "M", [], [⟨"m", ⟨"A", [⟨"A", [], false, false, ⟨13, 14, 1, 14⟩⟩], true, true,
        ⟨10, 11, 1, 11⟩⟩, [], ⟨8, 9, 1, 9⟩⟩], ⟨0, 5, 1, 1⟩⟩]⟩) := by
    cbv
  have hparse := Schema.parse_of_parseWithin 30 hparse
  obtain ⟨hnamed, hdepth, htype⟩ :=
    hparsed _ _ hparse _ (.head _) _ (.head _) _ (mem_parts_self _)
  refine ⟨hback Unit _ (wellNamed_nested 64) (Nat.le_of_eq (depth_nested 64)), _, hparse, _, .head _, _,
    .head _, htype, rfl, ?_⟩
  exact hequal Span Unit _ (nested 1) hnamed hdepth (wellNamed_nested 1) (by decide) rfl

end TypeRef

end ModelIdl
