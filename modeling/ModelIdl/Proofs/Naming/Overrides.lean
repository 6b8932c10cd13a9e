import ModelIdl.Naming.Physical
import Mathlib.Data.List.Forall2

/-!
# ModelIdl.Proofs.Naming.Overrides

What physical names are made from, and nothing else. Design points:

* **One rule for three names.** A table, a sequence and a column each go by the annotations of one name. The
  last of these decides alone: a text in front of its arguments is the physical name under every strategy,
  and without one the strategy's name stands, whatever earlier annotations say (`Annot.Decides`).
* **Last is a place, not a search.** Behind the last annotation of a name there is none of that name
  (`Annot.IsLast`).
* **All else is invisible.** Declarations that agree in what is named here have the same physical names
  (`Naming.physicalNames_by_last_annotations`).
-/

namespace ModelIdl

variable {σ τ : Type}

/-! ### The last annotation of a name -/

namespace Annot

/-- The annotation has the name, and no annotation behind it has. -/
def IsLast (name : String) (annotations : List (Annot σ)) (a : Annot σ) : Prop :=
  ∃ front behind, annotations = front ++ a :: behind ∧ a.name = name ∧ ∀ b ∈ behind, b.name ≠ name

/-- The first argument is a string, or a bare name, with this text. -/
def StartsWithText (a : Annot σ) (s : String) : Prop :=
  ∃ rest, a.arguments = .string s :: rest ∨ a.arguments = .name s :: rest

/-- The last annotation of the name gives this text. -/
def Gives (name : String) (annotations : List (Annot σ)) (s : String) : Prop :=
  ∃ a, IsLast name annotations a ∧ a.StartsWithText s

/-- What the annotations of a name decide on, given what is used otherwise. -/
inductive Decides (name : String) (annotations : List (Annot σ)) (otherwise : String) : String → Prop
  | given {s : String} (h : Gives name annotations s) : Decides name annotations otherwise s
  | silent (h : ∀ s, ¬ Gives name annotations s) : Decides name annotations otherwise otherwise

/-- The last annotations of the name have the same arguments, or there is none in either list. -/
def SameLast (name : String) (as : List (Annot σ)) (bs : List (Annot τ)) : Prop :=
  ∀ arguments, (∃ a, IsLast name as a ∧ a.arguments = arguments) ↔
    ∃ b, IsLast name bs b ∧ b.arguments = arguments

/-- The search from the end finds the last one. -/
theorem find?_eq_some_iff {name : String} {annotations : List (Annot σ)} {a : Annot σ} :
    find? name annotations = some a ↔ IsLast name annotations a := by
  rw [find?, List.find?_eq_some_iff_append]
  constructor
  · rintro ⟨hname, before, after, hsplit, hbefore⟩
    refine ⟨after.reverse, before.reverse, ?_, by simpa using hname, fun b hb => ?_⟩
    · simpa using congrArg List.reverse hsplit
    · simpa using hbefore b (List.mem_reverse.1 hb)
  · rintro ⟨front, behind, rfl, hname, hbehind⟩
    refine ⟨by simpa using hname, behind.reverse, front.reverse, by simp, fun b hb => ?_⟩
    simpa using hbehind b (List.mem_reverse.1 hb)

theorem firstText?_eq_some_iff {a : Annot σ} {s : String} :
    a.firstText? = some s ↔ a.StartsWithText s := by
  obtain ⟨name, arguments, place⟩ := a
  cases arguments with
  | nil => simp [firstText?, StartsWithText]
  | cons l rest => cases l <;> simp [firstText?, StartsWithText, Literal.asText?]

theorem override?_eq_some_iff {name : String} {annotations : List (Annot σ)} {s : String} :
    override? name annotations = some s ↔ Gives name annotations s := by
  simp only [override?, Option.bind_eq_some_iff, find?_eq_some_iff, firstText?_eq_some_iff, Gives]

/-- Together, the annotations and what is used otherwise leave one name only. -/
theorem getD_override?_eq_iff {name : String} {annotations : List (Annot σ)} {otherwise s : String} :
    (override? name annotations).getD otherwise = s ↔ Decides name annotations otherwise s := by
  cases hgiven : override? name annotations with
  | some text =>
    have htext := override?_eq_some_iff.1 hgiven
    constructor
    · rintro rfl
      exact .given htext
    · intro h
      cases h with
      | given h =>
        rw [← override?_eq_some_iff, hgiven] at h
        exact Option.some.inj h
      | silent h => exact absurd htext (h text)
  | none =>
    have hsilent (text : String) : ¬ Gives name annotations text := by
      rw [← override?_eq_some_iff, hgiven]
      simp
    constructor
    · rintro rfl
      exact .silent hsilent
    · intro h
      cases h with
      | given h => exact absurd h (hsilent s)
      | silent _ => rfl

/-- Whether the last annotations of a name agree can be looked up. -/
theorem sameLast_iff {name : String} {as : List (Annot σ)} {bs : List (Annot τ)} :
    SameLast name as bs ↔ (find? name as).map (·.arguments) = (find? name bs).map (·.arguments) := by
  rw [Option.ext_iff]
  refine forall_congr' fun arguments => ?_
  simp only [Option.map_eq_some_iff, find?_eq_some_iff]

theorem SameLast.symm {name : String} {as : List (Annot σ)} {bs : List (Annot τ)}
    (h : SameLast name as bs) : SameLast name bs as :=
  fun arguments => (h arguments).symm

/-- What an annotation gives is in its arguments. -/
theorem SameLast.gives {name : String} {as : List (Annot σ)} {bs : List (Annot τ)}
    (h : SameLast name as bs) {s : String} (hs : Gives name as s) : Gives name bs s := by
  obtain ⟨a, hlast, htext⟩ := hs
  obtain ⟨b, hlast', harguments⟩ := (h a.arguments).1 ⟨a, hlast, rfl⟩
  refine ⟨b, hlast', ?_⟩
  rwa [StartsWithText, harguments]

theorem SameLast.decides {name : String} {as : List (Annot σ)} {bs : List (Annot τ)}
    (h : SameLast name as bs) {otherwise s : String} (hs : Decides name as otherwise s) :
    Decides name bs otherwise s := by
  cases hs with
  | given hs => exact .given (h.gives hs)
  | silent hs => exact .silent fun text htext => hs text (h.symm.gives htext)

end Annot

/-! ### Declarations -/

/-- The fields have one name, and the last annotations for their columns agree. -/
structure Field.NamedAlike (f : Field σ) (g : Field τ) : Prop where
  name : f.name = g.name
  column : Annot.SameLast "column" f.annotations g.annotations

/-- The declarations agree in all that physical names are made from: the kind, the logical name, the last
annotations for a model's table and sequence, and field by field the name and the last annotation for its
column. -/
structure Declaration.NamedAlike (d : Declaration σ) (e : Declaration τ) : Prop where
  kind : d.kind = e.kind
  logicalName : d.logicalName = e.logicalName
  table : d.kind = .model → Annot.SameLast "table" d.annotations e.annotations
  sequence : d.kind = .model → Annot.SameLast "sequence" d.annotations e.annotations
  fields : List.Forall₂ Field.NamedAlike d.fields e.fields

/-- The names are those that a strategy and the annotations of the declaration decide on. -/
structure Naming.Decided (n : Naming) (d : Declaration σ) (names : PhysicalNames) : Prop where
  logicalName : names.logicalName = d.logicalName
  table : d.kind = .model →
    ∃ t, names.table = some t ∧ Annot.Decides "table" d.annotations (n.table d.logicalName) t
  sequence : d.kind = .model → ∃ s, names.sequence = some s ∧
    Annot.Decides "sequence" d.annotations (n.sequence (d.logicalName ++ "_seq")) s
  embeddable : d.kind = .embeddable → names.table = none ∧ names.sequence = none
  columns : List.Forall₂
    (fun f c => c.1 = f.name ∧ Annot.Decides "column" f.annotations (n.column f.name) c.2)
    d.fields names.columns

/-- What the last annotations give is the physical name as it stands. -/
structure Naming.KeepsGiven (n : Naming) (d : Declaration σ) : Prop where
  table : d.kind = .model → ∀ s, Annot.Gives "table" d.annotations s →
    (n.physicalNames d).table = some s
  sequence : d.kind = .model → ∀ s, Annot.Gives "sequence" d.annotations s →
    (n.physicalNames d).sequence = some s
  columns : ∀ (i : Nat) (f : Field σ), d.fields[i]? = some f →
    ∀ s, Annot.Gives "column" f.annotations s → (n.physicalNames d).columns[i]? = some (f.name, s)

namespace Naming

theorem tableOf_of_model (n : Naming) {d : Declaration σ} (h : d.kind = .model) :
    n.tableOf d = some ((Annot.override? "table" d.annotations).getD (n.table d.logicalName)) := by
  rw [tableOf, h]
  rfl

theorem sequenceOf_of_model (n : Naming) {d : Declaration σ} (h : d.kind = .model) :
    n.sequenceOf d = some
      ((Annot.override? "sequence" d.annotations).getD (n.sequence (d.logicalName ++ "_seq"))) := by
  rw [sequenceOf, h]
  rfl

theorem decided_physicalNames (n : Naming) (d : Declaration σ) : n.Decided d (n.physicalNames d) where
  logicalName := rfl
  table h := ⟨_, n.tableOf_of_model h, Annot.getD_override?_eq_iff.1 rfl⟩
  sequence h := ⟨_, n.sequenceOf_of_model h, Annot.getD_override?_eq_iff.1 rfl⟩
  embeddable h := by simp [physicalNames, tableOf, sequenceOf, h, DeclarationKind.hasTable]
  columns := by
    rw [physicalNames, List.forall₂_map_right_iff, List.forall₂_same]
    exact fun f _ => ⟨rfl, Annot.getD_override?_eq_iff.1 rfl⟩

/-- There is one choice of columns that a strategy and annotations decide on. -/
theorem columns_eq_of_decides {n : Naming} {fields : List (Field σ)} {columns : List (String × String)}
    (h : List.Forall₂
      (fun f c => c.1 = f.name ∧ Annot.Decides "column" f.annotations (n.column f.name) c.2)
      fields columns) : fields.map (fun f => (f.name, n.columnOf f)) = columns := by
  induction h with
  | nil => rfl
  | cons hc _ ih =>
    obtain ⟨hname, hdecides⟩ := hc
    rw [List.map_cons, ih, columnOf, Field.columnOverride?, Annot.getD_override?_eq_iff.2 hdecides, ← hname]

/-- There is one choice of names that a strategy and annotations decide on. -/
theorem Decided.eq_physicalNames {n : Naming} {d : Declaration σ} {names : PhysicalNames}
    (h : n.Decided d names) : n.physicalNames d = names := by
  obtain ⟨logicalName, table, sequence, columns⟩ := names
  obtain ⟨(rfl : logicalName = _), htable, hsequence, hnone, hcolumns⟩ := h
  rw [physicalNames, columns_eq_of_decides hcolumns]
  cases hkind : d.kind with
  | model =>
    obtain ⟨t, rfl, hdecides⟩ := htable hkind
    obtain ⟨s, rfl, hdecides'⟩ := hsequence hkind
    rw [n.tableOf_of_model hkind, n.sequenceOf_of_model hkind,
      Annot.getD_override?_eq_iff.2 hdecides, Annot.getD_override?_eq_iff.2 hdecides']
  | embeddable =>
    obtain ⟨rfl, rfl⟩ := hnone hkind
    simp [tableOf, sequenceOf, hkind, DeclarationKind.hasTable]

/-- Columns that are decided on for some fields are so for fields that are named alike. -/
theorem decides_columns {n : Naming} {fs : List (Field σ)} {gs : List (Field τ)}
    {columns : List (String × String)} (hsame : List.Forall₂ Field.NamedAlike fs gs)
    (h : List.Forall₂
      (fun f c => c.1 = f.name ∧ Annot.Decides "column" f.annotations (n.column f.name) c.2) fs columns) :
    List.Forall₂
      (fun g c => c.1 = g.name ∧ Annot.Decides "column" g.annotations (n.column g.name) c.2)
      gs columns := by
  induction hsame generalizing columns with
  | nil => cases h; exact .nil
  | cons hfg _ ih =>
    cases h with
    | cons hc hrest =>
      rw [hfg.name] at hc
      exact .cons ⟨hc.1, hfg.column.decides hc.2⟩ (ih hrest)

/-- Names that are decided on for a declaration are so for all that are named alike. -/
theorem Decided.of_namedAlike {n : Naming} {d : Declaration σ} {e : Declaration τ}
    {names : PhysicalNames} (h : n.Decided d names) (hsame : d.NamedAlike e) : n.Decided e names where
  logicalName := h.logicalName.trans hsame.logicalName
  table hkind := by
    have hkind' := hsame.kind.trans hkind
    obtain ⟨t, ht, hdecides⟩ := h.table hkind'
    exact ⟨t, ht, hsame.logicalName ▸ (hsame.table hkind').decides hdecides⟩
  sequence hkind := by
    have hkind' := hsame.kind.trans hkind
    obtain ⟨s, hs, hdecides⟩ := h.sequence hkind'
    exact ⟨s, hs, hsame.logicalName ▸ (hsame.sequence hkind').decides hdecides⟩
  embeddable hkind := h.embeddable (hsame.kind.trans hkind)
  columns := decides_columns hsame.fields h.columns

theorem keepsGiven (n : Naming) (d : Declaration σ) : n.KeepsGiven d where
  table hkind s h := by
    rw [physicalNames, n.tableOf_of_model hkind, Annot.getD_override?_eq_iff.2 (.given h)]
  sequence hkind s h := by
    rw [physicalNames, n.sequenceOf_of_model hkind, Annot.getD_override?_eq_iff.2 (.given h)]
  columns i f hf s h := by
    rw [physicalNames, List.getElem?_map, hf, Option.map_some, columnOf, Field.columnOverride?,
      Annot.getD_override?_eq_iff.2 (.given h)]

/-- Declarations have equal physical names under every strategy if they agree in their kind, their logical
name, the last annotations for a model's table and sequence, and each field's name and last annotation for
its column. Of the annotations of one name, the last decides alone: the text that its arguments start with
is the name, under every strategy alike, and if they start with none it is the strategy's name for the
logical name, with `_seq` behind it for a sequence, or for the field's name. -/
theorem physicalNames_by_last_annotations :
    (∀ (σ τ : Type) (d : Declaration σ) (e : Declaration τ), d.NamedAlike e →
      ∀ n : Naming, n.physicalNames d = n.physicalNames e) ∧
    (∀ (σ : Type) (n : Naming) (d : Declaration σ) (names : PhysicalNames),
      n.physicalNames d = names ↔ n.Decided d names) ∧
    ∀ (σ : Type) (d : Declaration σ) (n : Naming), n.KeepsGiven d := by
  refine ⟨fun σ τ d e hsame n => ?_, fun σ n d names => ⟨?_, ?_⟩, fun σ d n => n.keepsGiven d⟩
  · exact ((n.decided_physicalNames d).of_namedAlike hsame).eq_physicalNames.symm
  · rintro rfl
    exact n.decided_physicalNames d
  · exact fun h => h.eq_physicalNames

/-- The model of `@table("T") @table(1) @sequence(s) model A as "LineItem" { x: B @column("c") @column }`. -/
def crowdedItem : Declaration Unit :=
  ⟨.model, "A", "LineItem", [⟨"table", [.string "T"], ()⟩, ⟨"table", [.integer 1], ()⟩,
      ⟨"sequence", [.name "s"], ()⟩],
    [⟨"x", ⟨"B", [], false, false, ()⟩, [⟨"column", [.string "c"], ()⟩, ⟨"column", [], ()⟩], ()⟩], ()⟩

/-- The model of `@sequence(s) @table(1) @note model C as "LineItem" { @column x: D[] }`. -/
def sparseItem : Declaration Bool :=
  ⟨.model, "C", "LineItem", [⟨"sequence", [.name "s"], true⟩, ⟨"table", [.integer 1], true⟩,
      ⟨"note", [], true⟩],
    [⟨"x", ⟨"D", [], true, false, true⟩, [⟨"column", [], true⟩], true⟩], true⟩

theorem namedAlike_items : crowdedItem.NamedAlike sparseItem where
  kind := rfl
  logicalName := rfl
  table _ := Annot.sameLast_iff.2 rfl
  sequence _ := Annot.sameLast_iff.2 rfl
  fields := .cons ⟨rfl, Annot.sameLast_iff.2 rfl⟩ .nil

/-- Texts in front of the last annotation of their name are not used. -/
theorem physicalNames_by_last_annotations_items :
    crowdedItem.NamedAlike sparseItem ∧
    snake.physicalNames crowdedItem = snake.physicalNames sparseItem ∧
    snake.physicalNames sparseItem = ⟨"LineItem", some "line_item", some "s", [("x", "x")]⟩ ∧
    Annot.Gives "sequence" crowdedItem.annotations "s" ∧
    (identity.physicalNames crowdedItem).sequence = some "s" := by
  obtain ⟨hsame, -, hgiven⟩ := physicalNames_by_last_annotations
  have hsequence : Annot.Gives "sequence" crowdedItem.annotations "s" := Annot.override?_eq_some_iff.1 rfl
  exact ⟨namedAlike_items, hsame _ _ _ _ namedAlike_items snake, by decide, hsequence,
    (hgiven _ crowdedItem identity).sequence rfl "s" hsequence⟩

end Naming

end ModelIdl
