import Mathlib
import ModelIdl.Naming.Physical
import ModelIdl.Proofs.Naming.SnakeForm
import ModelIdl.Proofs.Naming.Wrappers

/-!
# ModelIdl.Proofs.Naming.SequenceNames

The name of a sequence against that of its table. Design points:

* **A separator cuts a name in two.** What is in front of a separator in a name and what is behind it change
  their case without regard to each other (`snake_append_separator`). The separator is one underscore between
  them, unless another is in front of it.
* **So the suffix stays a suffix.** The name that a sequence goes by is that of its table, the suffix in the
  case of the strategy, and the texts that wrappers put behind it
  (`Naming.sequence_logicalSequenceName`). It is longer than the name of the table.
-/

namespace ModelIdl

/-! ### Names around a separator -/

namespace SnakeCase

theorem isLowercase_of_isSeparator {c : Char} (h : isSeparator c = true) :
    Text.isLowercase c = false := by
  rw [← Bool.not_eq_true]
  intro hlower
  rw [isSeparator_of_isLowercase hlower] at h
  cases h

/-- A separator behind a character makes it what the end of the name would. -/
theorem piece_before_separator (before : Option Char) (c : Char) {s : Char}
    (hs : isSeparator s = true) : piece before c (some s) = piece before c none := by
  have hword (b : Char) : beginsWord b c (some s) = beginsWord b c none := by
    rw [beginsWord, beginsWord, Option.any_some, Option.any_none, isLowercase_of_isSeparator hs]
  simp only [piece, hword]

/-- What is in front of a separator does not depend on what is behind it. -/
theorem pieces_append_separator (before : Option Char) (front : List Char) {s : Char}
    (hs : isSeparator s = true) (rest : List Char) :
    pieces before (front ++ s :: rest) =
      pieces before front ++ pieces (front.getLast?.or before) (s :: rest) := by
  induction front generalizing before with
  | nil => rfl
  | cons c front ih =>
    have hpiece : piece before c (front ++ s :: rest).head? = piece before c front.head? := by
      cases front with
      | nil => exact piece_before_separator before c hs
      | cons d front => rfl
    rw [List.cons_append, pieces_cons, pieces_cons, ih, getLast?_cons_or, hpiece, List.append_assoc]

/-- Behind a separator a name that starts with none is changed as it is alone. -/
theorem pieces_behind_separator {s : Char} (hs : isSeparator s = true) {rest : List Char}
    (hrest : rest.head?.any isSeparator = false) : pieces (some s) rest = snake rest := by
  cases rest with
  | nil => rfl
  | cons c rest =>
    have hc : isSeparator c = false := hrest
    rw [snake, pieces_cons, pieces_cons, piece_letter hc, piece_letter hc]
    simp [beginsWord_of_isSeparator hs]

/-- Two names with a separator between them, the second of which starts with none. -/
theorem snake_append_separator (front : List Char) {s : Char} (hs : isSeparator s = true)
    {rest : List Char} (hrest : rest.head?.any isSeparator = false) :
    snake (front ++ s :: rest) =
      snake front ++ ((if front.getLast?.any isSeparator then [] else ['_']) ++ snake rest) := by
  rw [snake, pieces_append_separator none front hs, pieces_cons, pieces_behind_separator hs hrest,
    piece, if_pos hs, Option.or_none]
  rfl

end SnakeCase

/-- Does a name start with a separator? -/
def startsWithSeparator (name : String) : Bool :=
  name.toList.head?.any SnakeCase.isSeparator

/-- Does a name end with a separator? -/
def endsWithSeparator (name : String) : Bool :=
  name.toList.getLast?.any SnakeCase.isSeparator

theorem toSnakeCase_append_separator {a b : String} {c : Char} (ha : endsWithSeparator a = false)
    (hb : startsWithSeparator b = false) (hc : SnakeCase.isSeparator c = true) :
    toSnakeCase (a ++ String.singleton c ++ b) = toSnakeCase a ++ "_" ++ toSnakeCase b := by
  have hlist : (a ++ String.singleton c ++ b).toList = a.toList ++ c :: b.toList := by simp
  have ha : a.toList.getLast?.any SnakeCase.isSeparator = false := ha
  rw [toSnakeCase, hlist, SnakeCase.snake_append_separator a.toList hc hb, ha, String.ofList_append,
    String.ofList_append, String.append_assoc]
  rfl

/-! ### Standard strategies -/

namespace NamingKind

/-- What a strategy makes of the suffix of a sequence: all of it, but for an underscore behind another. -/
def sequenceSuffix : NamingKind → String → String
  | identity, _ => "_seq"
  | snake, logicalName => if endsWithSeparator logicalName then "seq" else "_seq"
  | upperSnake, logicalName => if endsWithSeparator logicalName then "SEQ" else "_SEQ"

theorem sequenceSuffix_ne_empty (k : NamingKind) (logicalName : String) :
    k.sequenceSuffix logicalName ≠ "" := by
  cases k with
  | identity => simp [sequenceSuffix]
  | snake => cases h : endsWithSeparator logicalName <;> simp [sequenceSuffix, h]
  | upperSnake => cases h : endsWithSeparator logicalName <;> simp [sequenceSuffix, h]

theorem snake_logicalSequenceName (logicalName : String) :
    SnakeCase.snake (logicalSequenceName logicalName).toList =
      SnakeCase.snake logicalName.toList ++ (snake.sequenceSuffix logicalName).toList := by
  have hseq : SnakeCase.snake "seq".toList = "seq".toList := by decide
  have hlist : (logicalSequenceName logicalName).toList = logicalName.toList ++ '_' :: "seq".toList := by
    simp [logicalSequenceName]
  rw [hlist, SnakeCase.snake_append_separator logicalName.toList (by decide) (by decide), hseq,
    sequenceSuffix, endsWithSeparator]
  split <;> simp

theorem naming_logicalSequenceName (k : NamingKind) (logicalName : String) :
    k.naming.sequence (logicalSequenceName logicalName) =
      k.naming.table logicalName ++ k.sequenceSuffix logicalName := by
  cases k with
  | identity => rfl
  | snake =>
    have h := snake_logicalSequenceName logicalName
    simp only [naming, Naming.snake, Naming.uniform, toSnakeCase, h, String.ofList_append,
      String.ofList_toList]
  | upperSnake =>
    have h := snake_logicalSequenceName logicalName
    have hraised : (snake.sequenceSuffix logicalName).toList.flatMap Text.raised =
        (upperSnake.sequenceSuffix logicalName).toList := by
      simp only [sequenceSuffix]
      split <;> decide
    simp only [naming, Naming.upperSnake, Naming.uniform, toUpperSnakeCase, SnakeCase.upperSnake, h,
      List.flatMap_append, hraised, String.ofList_append, String.ofList_toList]

end NamingKind

/-! ### Sequences and tables -/

namespace Naming

variable {σ : Type}

theorem sequence_logicalSequenceName (k : NamingKind) (ws : List Affixes) (logicalName : String) :
    (k.naming.wrapped ws).sequence (logicalSequenceName logicalName) =
      (k.naming.wrapped ws).table logicalName ++ k.sequenceSuffix logicalName ++
        Affixes.behinds ws := by
  rw [wrapped_sequence, wrapped_table, NamingKind.naming_logicalSequenceName]
  simp only [String.append_assoc]

/-- A name with something behind it is another name. -/
theorem append_append_ne {name suffix : String} (h : suffix ≠ "") (behind : String) :
    name ++ suffix ++ behind ≠ name := by
  intro heq
  have hlength := congrArg String.length heq
  have hpos : suffix.length ≠ 0 := by simpa using h
  simp only [String.length_append] at hlength
  omega

/-- Under a standard strategy in any wrappers, the name of a sequence is that of the table, the suffix in the
case of the strategy and what the wrappers add behind, and never that of the table itself; so it is for the
sequence and the table of a declaration that no annotation renames. In general a separator between two names,
of which the first ends and the second starts with none, is an underscore between their forms. -/
theorem sequence_extends_table :
    (∀ (k : NamingKind) (ws : List Affixes) (logicalName : String),
      (k.naming.wrapped ws).sequence (logicalSequenceName logicalName) =
          (k.naming.wrapped ws).table logicalName ++ k.sequenceSuffix logicalName ++
            Affixes.behinds ws ∧
        (k.naming.wrapped ws).sequence (logicalSequenceName logicalName) ≠
          (k.naming.wrapped ws).table logicalName) ∧
    (∀ (k : NamingKind) (ws : List Affixes) (d : Declaration σ), d.kind.hasTable = true →
      d.tableOverride? = none → d.sequenceOverride? = none →
        ∃ table sequence, (k.naming.wrapped ws).tableOf d = some table ∧
          (k.naming.wrapped ws).sequenceOf d = some sequence ∧
          sequence = table ++ k.sequenceSuffix d.logicalName ++ Affixes.behinds ws ∧
          sequence ≠ table) ∧
    ∀ (a b : String) (c : Char), endsWithSeparator a = false → startsWithSeparator b = false →
      SnakeCase.isSeparator c = true →
        toSnakeCase (a ++ String.singleton c ++ b) = toSnakeCase a ++ "_" ++ toSnakeCase b := by
  have hnames (k : NamingKind) (ws : List Affixes) (logicalName : String) :
      (k.naming.wrapped ws).sequence (logicalSequenceName logicalName) ≠
        (k.naming.wrapped ws).table logicalName := by
    rw [sequence_logicalSequenceName]
    exact append_append_ne (k.sequenceSuffix_ne_empty logicalName) _
  refine ⟨fun k ws logicalName => ⟨sequence_logicalSequenceName k ws logicalName, hnames k ws _⟩,
    fun k ws d hkind htable hsequence => ?_, fun a b c => toSnakeCase_append_separator⟩
  refine ⟨_, _, ?_, ?_, sequence_logicalSequenceName k ws d.logicalName, hnames k ws d.logicalName⟩
  · rw [tableOf, if_pos hkind, htable, Option.getD_none]
  · rw [sequenceOf, if_pos hkind, hsequence, Option.getD_none]

/-- The suffix brings no second underscore to a name that ends with a hyphen. -/
theorem sequence_extends_table_behind_hyphen :
    let n := NamingKind.upperSnake.naming.wrapped [⟨"app_", "_no"⟩, ⟨"x.", ""⟩]
    let d : Declaration Unit := ⟨.model, "Order", "HTTPOrder-", [], [], ()⟩
    (d.kind.hasTable = true ∧ d.tableOverride? = none ∧ d.sequenceOverride? = none) ∧
      n.tableOf d = some "x.app_HTTP_ORDER_" ∧ n.sequenceOf d = some "x.app_HTTP_ORDER_SEQ_no" ∧
      (endsWithSeparator "HTTPOrder" = false ∧ startsWithSeparator "ID" = false ∧
        SnakeCase.isSeparator '-' = true) ∧
      toSnakeCase ("HTTPOrder" ++ String.singleton '-' ++ "ID") =
        toSnakeCase "HTTPOrder" ++ "_" ++ toSnakeCase "ID" := by
  intro n d
  obtain ⟨-, hmodels, hseparated⟩ := sequence_extends_table (σ := Unit)
  obtain ⟨table, sequence, htable, hsequence, hsuffix, -⟩ :=
    hmodels .upperSnake [⟨"app_", "_no"⟩, ⟨"x.", ""⟩] d rfl rfl rfl
  have hname : n.tableOf d = some "x.app_HTTP_ORDER_" := by cbv
  obtain rfl : "x.app_HTTP_ORDER_" = table := Option.some.inj (hname.symm.trans htable)
  have hends : endsWithSeparator "HTTPOrder" = false := by decide
  have hstarts : startsWithSeparator "ID" = false := by decide
  have hhyphen : SnakeCase.isSeparator '-' = true := by decide
  refine ⟨⟨rfl, rfl, rfl⟩, hname, ?_, ⟨hends, hstarts, hhyphen⟩, hseparated _ _ _ hends hstarts hhyphen⟩
  rw [hsequence, hsuffix]
  cbv

end Naming

end ModelIdl
