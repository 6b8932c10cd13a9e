import Mathlib
import ModelIdl.Naming.Physical
import ModelIdl.Proofs.Naming.Letters
import ModelIdl.Proofs.Schema.InPlace
import ModelIdl.Proofs.Session.FirstObjection

/-!
# ModelIdl.Proofs.Session.EmptyNames

Where empty identifiers come from. Names that a source gives are not empty, and no strategy makes nothing
out of something: each character becomes at least one, only a separator behind another becomes none, and
the first character is behind nothing. Wrapping a strategy only adds text. What remains are annotations
that ask for the empty name, and these a session never lets pass, whatever its dialect
(`RuledSession.empty_identifier_only_by_override`).
-/

namespace ModelIdl

variable {σ : Type}

/-! ### Changing the case -/

namespace SnakeCase

/-- The first character of a name is never dropped. -/
theorem piece_none_ne_nil (c : Char) (behind : Option Char) : piece none c behind ≠ [] := by
  unfold piece
  split
  · simp
  · exact List.append_ne_nil_of_right_ne_nil _ (image_ne_nil c)

theorem snake_ne_nil {name : List Char} (h : name ≠ []) : snake name ≠ [] := by
  obtain ⟨c, rest, rfl⟩ := List.exists_cons_of_ne_nil h
  rw [snake, pieces_cons]
  exact List.append_ne_nil_of_left_ne_nil (piece_none_ne_nil c rest.head?) _

theorem upperSnake_ne_nil {name : List Char} (h : name ≠ []) : upperSnake name ≠ [] := by
  obtain ⟨c, rest, hsnake⟩ := List.exists_cons_of_ne_nil (snake_ne_nil h)
  rw [upperSnake, hsnake, List.flatMap_cons]
  exact List.append_ne_nil_of_left_ne_nil (Text.raised_ne_nil c) _

end SnakeCase

theorem toSnakeCase_ne_empty {name : String} (h : name ≠ "") : toSnakeCase name ≠ "" := by
  rw [toSnakeCase, Ne, String.ofList_eq_empty_iff]
  exact SnakeCase.snake_ne_nil (by simpa using h)

theorem toUpperSnakeCase_ne_empty {name : String} (h : name ≠ "") : toUpperSnakeCase name ≠ "" := by
  rw [toUpperSnakeCase, Ne, String.ofList_eq_empty_iff]
  exact SnakeCase.upperSnake_ne_nil (by simpa using h)

/-! ### Strategies -/

namespace Naming

/-- A strategy that makes no empty name, except out of one. -/
structure NeverEmpties (n : Naming) : Prop where
  table : ∀ {name}, name ≠ "" → n.table name ≠ ""
  sequence : ∀ {name}, name ≠ "" → n.sequence name ≠ ""
  column : ∀ {name}, name ≠ "" → n.column name ≠ ""

/-- A standard strategy in any number of wrappers. -/
inductive Composed : Naming → Prop
  | standard (k : NamingKind) : Composed k.naming
  | affixed {inner : Naming} (front behind : String) (h : Composed inner) :
      Composed (affixed front behind inner)

theorem neverEmpties_uniform {rule : String → String} (h : ∀ {name}, name ≠ "" → rule name ≠ "") :
    (uniform rule).NeverEmpties :=
  ⟨h, h, h⟩

theorem NeverEmpties.affixed {n : Naming} (h : n.NeverEmpties) (front behind : String) :
    (affixed front behind n).NeverEmpties where
  table hname := by
    simp [Naming.affixed, h.table hname]
  sequence hname := by
    simp [Naming.affixed, h.sequence hname]
  column hname := h.column hname

theorem Composed.neverEmpties {n : Naming} (h : n.Composed) : n.NeverEmpties := by
  induction h with
  | standard k =>
    cases k with
    | identity => exact neverEmpties_uniform id
    | snake => exact neverEmpties_uniform toSnakeCase_ne_empty
    | upperSnake => exact neverEmpties_uniform toUpperSnakeCase_ne_empty
  | affixed front behind _ ih => exact ih.affixed front behind

end Naming

/-! ### Names in a source -/

/-- A declaration whose logical name and fields have names. -/
structure Declaration.Named (d : Declaration σ) : Prop where
  logicalName : d.logicalName ≠ ""
  fields : ∀ f ∈ d.fields, f.name ≠ ""

/-- All declarations of a source are named. -/
theorem Schema.named_of_parse {source : String} {u : Schema Span} (h : Schema.parse source = .ok u)
    {d : Declaration Span} (hd : d ∈ u.declarations) : d.Named := by
  obtain ⟨hamong, hlimits⟩ := Schema.among_of_parse h hd
  refine ⟨hlimits.named, fun f hf hempty => ?_⟩
  have hsite : f.site ∈ (TokenStream.ofSource source).tokens :=
    (hamong.fields f hf).sites.subset (.head _)
  exact TokenStream.ofSource_names source _ hsite (by rw [Field.site, hempty])

/-! ### Empty identifiers -/

/-- An annotation that counts for a declaration of its kind asks for the empty name. -/
inductive Declaration.AsksForEmpty (d : Declaration σ) : Prop
  | table (hkind : d.kind = .model) (h : d.tableOverride? = some "")
  | sequence (hkind : d.kind = .model) (h : d.sequenceOverride? = some "")
  | column {f : Field σ} (hf : f ∈ d.fields) (h : f.columnOverride? = some "")

namespace Naming

variable {n : Naming} {d : Declaration σ}

/-- A name that may be overridden is empty only if the override is. -/
theorem getD_eq_empty_iff (override? : Option String) {name : String} (h : name ≠ "") :
    override?.getD name = "" ↔ override? = some "" := by
  cases override? <;> simp [h]

theorem tableOf_eq_empty_iff (hn : n.NeverEmpties) (hd : d.Named) :
    n.tableOf d = some "" ↔ d.kind = .model ∧ d.tableOverride? = some "" := by
  have hname := getD_eq_empty_iff d.tableOverride? (hn.table hd.logicalName)
  rw [tableOf]
  cases d.kind <;> simp [DeclarationKind.hasTable, hname]

theorem sequenceOf_eq_empty_iff (hn : n.NeverEmpties) :
    n.sequenceOf d = some "" ↔ d.kind = .model ∧ d.sequenceOverride? = some "" := by
  have hlogical : logicalSequenceName d.logicalName ≠ "" := by
    simp [logicalSequenceName]
  have hname := getD_eq_empty_iff d.sequenceOverride? (hn.sequence hlogical)
  rw [sequenceOf]
  cases d.kind <;> simp [DeclarationKind.hasTable, hname]

theorem columnOf_eq_empty_iff (hn : n.NeverEmpties) (hd : d.Named) {f : Field σ} (hf : f ∈ d.fields) :
    n.columnOf f = "" ↔ f.columnOverride? = some "" :=
  getD_eq_empty_iff f.columnOverride? (hn.column (hd.fields f hf))

/-- Some identifier of a declaration is empty exactly if an annotation asks for it. -/
theorem empty_mem_identifiers_iff (hn : n.NeverEmpties) (hd : d.Named) :
    "" ∈ (n.physicalNames d).identifiers ↔ d.AsksForEmpty := by
  have hcolumns : "" ∈ (n.physicalNames d).columns.map Prod.snd ↔
      ∃ f ∈ d.fields, f.columnOverride? = some "" := by
    simp only [physicalNames, List.map_map, List.mem_map, Function.comp_apply]
    exact exists_congr fun f => and_congr_right fun hf => columnOf_eq_empty_iff hn hd hf
  rw [PhysicalNames.identifiers, List.mem_append, List.mem_append, Option.mem_toList, Option.mem_toList,
    hcolumns]
  change (n.tableOf d = some "" ∨ n.sequenceOf d = some "") ∨ _ ↔ _
  rw [tableOf_eq_empty_iff hn hd, sequenceOf_eq_empty_iff hn]
  constructor
  · rintro ((⟨hkind, h⟩ | ⟨hkind, h⟩) | ⟨f, hf, h⟩)
    · exact .table hkind h
    · exact .sequence hkind h
    · exact .column hf h
  · rintro (⟨hkind, h⟩ | ⟨hkind, h⟩ | ⟨hf, h⟩)
    · exact .inl (.inl ⟨hkind, h⟩)
    · exact .inl (.inr ⟨hkind, h⟩)
    · exact .inr ⟨_, hf, h⟩

end Naming

namespace RuledSession

variable {s : RuledSession} {d : Declaration σ}

theorem objection?_empty : s.objection? d "" = some (.emptyIdentifier s.dialectId d.name) := rfl

/-- If some identifier is empty, the declaration does not resolve: either an empty identifier is the first
that is objected to, or one in front of all empty ones is, which the dialect refuses for its length. -/
theorem resolve_of_empty_mem (h : "" ∈ (s.naming.physicalNames d).identifiers) :
    s.resolve d = .error (.emptyIdentifier s.dialectId d.name) ∨
      ∃ front i behind most, (s.naming.physicalNames d).identifiers = front ++ i :: behind ∧
        "" ∉ front ∧ i ≠ "" ∧ "" ∈ behind ∧ s.rules.maxLength = some most ∧ s.rules.fits i = false ∧
        s.resolve d = .error (.identifierTooLong s.dialectId i most) := by
  cases hresolve : s.resolve d with
  | ok r =>
    have hnone := (resolve_eq_ok_iff.1 hresolve).1 "" h
    rw [objection?_empty] at hnone
    cases hnone
  | error e =>
    obtain ⟨front, i, behind, hsplit, hfront, hobjection⟩ := resolve_eq_error_iff.1 hresolve
    cases objection?_eq_some_iff.1 hobjection with
    | empty => exact .inl rfl
    | @unfit _ most hne hfits hmost =>
      have hnot : "" ∉ front := by
        intro hmem
        have hnone := hfront "" hmem
        rw [objection?_empty] at hnone
        cases hnone
      rw [hsplit, List.mem_append, List.mem_cons] at h
      obtain hmem | hempty | hmem := h
      · exact absurd hmem hnot
      · exact absurd hempty.symm hne
      · exact .inr ⟨front, i, behind, most, hsplit, hnot, hne, hmem, hmost, hfits, rfl⟩

theorem empty_mem_of_resolve {dialectId name : String}
    (h : s.resolve d = .error (.emptyIdentifier dialectId name)) :
    "" ∈ (s.naming.physicalNames d).identifiers := by
  obtain ⟨front, i, behind, hsplit, -, hobjection⟩ := resolve_eq_error_iff.1 h
  cases objection?_eq_some_iff.1 hobjection
  rw [hsplit]
  exact List.mem_append_right _ (.head _)

theorem sequenceOf_of_nextValueSql {dialectId name : String}
    (h : s.nextValueSql d = .error (.emptyIdentifier dialectId name)) :
    s.naming.sequenceOf d = some "" := by
  obtain ⟨sequence, hsequence, hobjection⟩ := nextValueSql_eq_error_iff.1 h
  cases objection?_eq_some_iff.1 hobjection
  exact hsequence

/-- No strategy that wraps a standard one makes an empty name for a declaration of a source. So whatever the
dialect, resolving such a declaration comes upon an empty identifier only if an annotation that counts for it
asks for one, and drawing from its sequence only if that is the one for the sequence. Where an annotation asks
for one, the declaration never resolves: the identifier is empty, or the dialect refuses one in front of all
empty ones for its length. -/
theorem empty_identifier_only_by_override {source : String} {u : Schema Span}
    (h : Schema.parse source = .ok u) {d : Declaration Span} (hd : d ∈ u.declarations) (s : RuledSession)
    (hnaming : s.naming.Composed) :
    (s.naming.table d.logicalName ≠ "" ∧ s.naming.sequence (logicalSequenceName d.logicalName) ≠ "" ∧
      ∀ f ∈ d.fields, s.naming.column f.name ≠ "") ∧
    (∀ dialectId name, s.resolve d = .error (.emptyIdentifier dialectId name) → d.AsksForEmpty) ∧
    (∀ dialectId name, s.nextValueSql d = .error (.emptyIdentifier dialectId name) →
      d.kind = .model ∧ d.sequenceOverride? = some "") ∧
    (d.AsksForEmpty → s.resolve d = .error (.emptyIdentifier s.dialectId d.name) ∨
      ∃ front i behind most, (s.naming.physicalNames d).identifiers = front ++ i :: behind ∧
        "" ∉ front ∧ i ≠ "" ∧ "" ∈ behind ∧ s.rules.maxLength = some most ∧ s.rules.fits i = false ∧
        s.resolve d = .error (.identifierTooLong s.dialectId i most)) := by
  have hn := hnaming.neverEmpties
  have hnamed := Schema.named_of_parse h hd
  refine ⟨⟨hn.table hnamed.logicalName, hn.sequence (by simp [logicalSequenceName]),
    fun f hf => hn.column (hnamed.fields f hf)⟩, fun _ _ herror => ?_, fun _ _ herror => ?_,
    fun hasks => ?_⟩
  · exact (Naming.empty_mem_identifiers_iff hn hnamed).1 (empty_mem_of_resolve herror)
  · exact (Naming.sequenceOf_eq_empty_iff hn).1 (sequenceOf_of_nextValueSql herror)
  · exact resolve_of_empty_mem ((Naming.empty_mem_identifiers_iff hn hnamed).2 hasks)

/-- The model of `model A{_:B @column("")}`, whose field has a separator for its name. -/
def separatorField : Declaration Span :=
  ⟨.model, "A", "A", [],
    [⟨"_", ⟨"B", [], false, false, ⟨10, 11, 1, 11⟩⟩, [⟨"column", [.string ""], ⟨12, 13, 1, 13⟩⟩],
      ⟨8, 9, 1, 9⟩⟩], ⟨0, 5, 1, 1⟩⟩

/-- The tokens of this model. -/
def separatorTokens : Tokens Span :=
  [⟨.keyword .model, ⟨0, 5, 1, 1⟩⟩, ⟨.name "A", ⟨6, 7, 1, 7⟩⟩, ⟨.symbol .openBrace, ⟨7, 8, 1, 8⟩⟩,
    ⟨.name "_", ⟨8, 9, 1, 9⟩⟩, ⟨.symbol .colon, ⟨9, 10, 1, 10⟩⟩, ⟨.name "B", ⟨10, 11, 1, 11⟩⟩,
    ⟨.symbol .atSign, ⟨12, 13, 1, 13⟩⟩, ⟨.name "column", ⟨13, 19, 1, 14⟩⟩,
    ⟨.symbol .openParen, ⟨19, 20, 1, 20⟩⟩, ⟨.string "", ⟨20, 22, 1, 21⟩⟩,
    ⟨.symbol .closeParen, ⟨22, 23, 1, 23⟩⟩, ⟨.symbol .closeBrace, ⟨23, 24, 1, 24⟩⟩]

/-- The grammar derives the model from its tokens. -/
theorem unitForm_separatorTokens :
    Grammar.UnitForm Grammar.greedyJoin separatorTokens ⟨[separatorField]⟩ := by
  have htype : Grammar.TypeForm [⟨.name "B", ⟨10, 11, 1, 11⟩⟩]
      (⟨"B", [], false, false, ⟨10, 11, 1, 11⟩⟩ : TypeRef Span) := .plain (u := []) .absent .absent
  have hannot : Grammar.AnnotForm (separatorTokens.drop 6).dropLast
      ⟨"column", [.string ""], ⟨12, 13, 1, 13⟩⟩ := .mk (.listed (.last .string))
  have hfield : Grammar.FieldForm false (separatorTokens.drop 3).dropLast
      ⟨"_", _, [⟨"column", [.string ""], ⟨12, 13, 1, 13⟩⟩], ⟨8, 9, 1, 9⟩⟩ :=
    .mk .nil htype (.cons hannot .nil) .absent
  have hdeclaration : Grammar.DeclarationForm Grammar.greedyJoin separatorTokens separatorField :=
    .mk .nil .model .absent (.cons hfield (.inr rfl) .nil)
  exact .cons hdeclaration .nil

/-- A session whose dialect names a limit of two characters, but refuses no name for its length. -/
def lenient : RuledSession :=
  ⟨"own", ⟨some 2, fun _ => true, fun name => "<" ++ name ++ ">", ("DRAW " ++ ·)⟩, .affixed "t_" "" .snake⟩

/-- The name of the field gives a column, but the annotation asks for none. The table is longer than the
limit, and is let pass. -/
theorem empty_identifier_only_by_override_column :
    let s := lenient
    Schema.parse "model A\x7b_:B @column(\"\")\x7d" = .ok ⟨[separatorField]⟩ ∧
      (∀ f ∈ separatorField.fields, s.naming.column f.name ≠ "") ∧
      s.resolve separatorField = .error (.emptyIdentifier "own" "A") ∧
      separatorField.AsksForEmpty := by
  intro s
  have hstream : Cursor.streamWithin 20 (.ofSource "model A\x7b_:B @column(\"\")\x7d") =
      some ⟨separatorTokens, .finished ⟨24, 24, 1, 25⟩⟩ := by
    cbv
  have hsource : Schema.parse "model A\x7b_:B @column(\"\")\x7d" = .ok ⟨[separatorField]⟩ := by
    rw [Schema.parse, TokenStream.ofSource, Cursor.stream_of_streamWithin hstream]
    refine (Schema.ofStream_eq_ok_iff (by decide) _).2 ⟨⟨_, rfl⟩, unitForm_separatorTokens, ?_⟩
    intro d hd
    obtain rfl := List.mem_singleton.1 hd
    exact ⟨by decide, by decide⟩
  obtain ⟨⟨-, -, hcolumns⟩, honly, -, hfails⟩ :=
    empty_identifier_only_by_override hsource (.head _) s (.affixed _ _ (.standard .snake))
  have hresolve : s.resolve separatorField = .error (.emptyIdentifier "own" "A") := by
    obtain hempty | ⟨_, _, _, _, _, _, _, _, _, hfits, _⟩ := hfails (.column (.head _) rfl)
    · exact hempty
    · cases hfits
  exact ⟨hsource, hcolumns, hresolve, honly _ _ hresolve⟩

end RuledSession

end ModelIdl
