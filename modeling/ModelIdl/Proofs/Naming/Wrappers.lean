import ModelIdl.Naming.Basic

/-!
# ModelIdl.Proofs.Naming.Wrappers

Strategies in any number of wrappers. All texts that the wrappers add in front of a name come together in
front of what the innermost strategy makes of it, the outermost first, and all texts behind come together
behind it, the innermost first (`Naming.wrapped_table`, `Naming.wrapped_sequence`). Columns get none of
them (`Naming.wrapped_column`), so a stack of wrappers is one wrapper (`Naming.stacked_eq_affixed`).

Between the wrappers a strategy may be *boxed*: held by a reference that passes every question on. A
strategy without a rule of its own for columns names them like tables, so a box or a wrapper that did
not pass that question on would add its texts to columns too.
-/

namespace ModelIdl

/-- The texts that a wrapper adds: one in front of tables and sequences, one behind sequences. -/
structure Affixes where
  front : String
  behind : String

namespace Affixes

/-- What wrappers add in front, the innermost wrapper being the first of the list. -/
def fronts : List Affixes → String
  | [] => ""
  | w :: ws => fronts ws ++ w.front

/-- What wrappers add behind, the innermost wrapper being the first of the list. -/
def behinds : List Affixes → String
  | [] => ""
  | w :: ws => w.behind ++ behinds ws

end Affixes

namespace Naming

/-- A strategy in wrappers, the first of the list directly around it. -/
def wrapped (n : Naming) : List Affixes → Naming
  | [] => n
  | w :: ws => (affixed w.front w.behind n).wrapped ws

theorem wrapped_table (n : Naming) (ws : List Affixes) (name : String) :
    (n.wrapped ws).table name = Affixes.fronts ws ++ n.table name := by
  induction ws generalizing n with
  | nil => rw [wrapped, Affixes.fronts, String.empty_append]
  | cons w ws ih => rw [wrapped, ih, Affixes.fronts, affixed, String.append_assoc]

theorem wrapped_sequence (n : Naming) (ws : List Affixes) (name : String) :
    (n.wrapped ws).sequence name =
      Affixes.fronts ws ++ n.sequence name ++ Affixes.behinds ws := by
  induction ws generalizing n with
  | nil => rw [wrapped, Affixes.fronts, Affixes.behinds, String.empty_append, String.append_empty]
  | cons w ws ih =>
    rw [wrapped, ih, Affixes.fronts, Affixes.behinds, affixed]
    simp only [String.append_assoc]

theorem wrapped_column (n : Naming) (ws : List Affixes) (name : String) :
    (n.wrapped ws).column name = n.column name := by
  induction ws generalizing n with
  | nil => rfl
  | cons w ws ih => rw [wrapped, ih, affixed]

/-- A strategy behind a reference to it. -/
def boxed (inner : Naming) : Naming where
  table name := inner.table name
  sequence name := inner.sequence name
  column name := inner.column name

end Naming

/-! ### Stacks -/

/-- What may stand around a strategy. -/
inductive Layer where
  | wrapper (texts : Affixes)
  | box

namespace Layer

/-- A strategy within one more layer. -/
def around (inner : Naming) : Layer → Naming
  | wrapper texts => inner.affixed texts.front texts.behind
  | box => inner.boxed

/-- The texts that a layer adds, if it is a wrapper. -/
def affixes? : Layer → Option Affixes
  | wrapper texts => some texts
  | box => none

end Layer

namespace Affixes

theorem fronts_eq_join (ws : List Affixes) : fronts ws = String.join (ws.reverse.map front) := by
  induction ws with
  | nil => rfl
  | cons w ws ih =>
    rw [fronts, ih, List.reverse_cons, List.map_append, String.join_append, List.map_singleton,
      String.join_cons, String.join_nil, String.append_empty]

theorem behinds_eq_join (ws : List Affixes) : behinds ws = String.join (ws.map behind) := by
  induction ws with
  | nil => rfl
  | cons w ws ih => rw [behinds, ih, List.map_cons, String.join_cons]

end Affixes

namespace Naming

/-- A strategy in layers, the first of the list directly around it. -/
def stacked (n : Naming) (layers : List Layer) : Naming :=
  layers.foldl Layer.around n

/-- Boxes change nothing. -/
theorem stacked_eq_wrapped (n : Naming) (layers : List Layer) :
    n.stacked layers = n.wrapped (layers.filterMap Layer.affixes?) := by
  induction layers generalizing n with
  | nil => rfl
  | cons layer layers ih =>
    rw [stacked, List.foldl_cons]
    cases layer with
    | wrapper texts => exact ih (n.affixed texts.front texts.behind)
    | box => exact ih n

/-- However many wrappers stand around a strategy, boxed or not: a table's name has all their front texts in
front of the strategy's, the outermost first, a sequence's name has these and all texts behind, the
innermost first, and a column's name is the strategy's. So the stack is one wrapper, with the front texts
and the texts behind put together. -/
theorem stacked_eq_affixed (inner : Naming) (layers : List Layer) :
    let wrappers := layers.filterMap Layer.affixes?
    let fronts := String.join (wrappers.reverse.map Affixes.front)
    let behinds := String.join (wrappers.map Affixes.behind)
    (∀ name, (inner.stacked layers).table name = fronts ++ inner.table name ∧
      (inner.stacked layers).sequence name = fronts ++ inner.sequence name ++ behinds ∧
      (inner.stacked layers).column name = inner.column name) ∧
    inner.stacked layers = inner.affixed fronts behinds := by
  intro wrappers fronts behinds
  have htable (name : String) : (inner.stacked layers).table name = fronts ++ inner.table name := by
    rw [stacked_eq_wrapped, wrapped_table, Affixes.fronts_eq_join]
  have hsequence (name : String) :
      (inner.stacked layers).sequence name = fronts ++ inner.sequence name ++ behinds := by
    rw [stacked_eq_wrapped, wrapped_sequence, Affixes.fronts_eq_join, Affixes.behinds_eq_join]
  have hcolumn (name : String) : (inner.stacked layers).column name = inner.column name := by
    rw [stacked_eq_wrapped, wrapped_column]
  refine ⟨fun name => ⟨htable name, hsequence name, hcolumn name⟩, ?_⟩
  rw [affixed, ← funext htable, ← funext hsequence, ← funext hcolumn]

end Naming

end ModelIdl
