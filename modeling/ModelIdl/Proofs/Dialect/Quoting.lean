import ModelIdl.Dialect.Basic

/-!
# ModelIdl.Proofs.Dialect.Quoting

Reading undoes quoting. A text reads as a quoted item exactly if it is that item with something behind it
that does not start with a closing mark (`Quotes.read_eq_some_iff`), so an item ends where its quoting
ends, whatever marks stand inside it. Each dialect has one identifier for each name
(`Dialect.unquote?_eq_some_iff`), and no name ends its identifier early (`Dialect.read_quoteIdentifier`).
-/

namespace ModelIdl

namespace Quotes

variable {q : Quotes}

/-- A text with its marks doubled is read as what it was, whatever stands behind it, and reading goes on
there. -/
theorem readInside_doubled_append (inside behind : List Char) :
    q.readInside (q.doubled inside ++ behind) =
      (q.readInside behind).map fun (more, left) => (inside ++ more, left) := by
  induction inside with
  | nil => simp
  | cons c inside ih =>
    rw [doubled]
    by_cases hmark : c = q.closing
    · subst hmark
      simp [readInside, ih, Function.comp_def]
    · rw [if_neg hmark, List.cons_append, readInside.eq_def]
      simp [hmark, ih, Function.comp_def]

/-- A text with its marks doubled reads back up to the single mark behind it. -/
theorem readInside_doubled (inside : List Char) {behind : List Char}
    (h : behind.head? ≠ some q.closing) :
    q.readInside (q.doubled inside ++ q.closing :: behind) = some (inside, behind) := by
  have hclose : q.readInside (q.closing :: behind) = some ([], behind) := by
    cases behind with
    | nil => simp [readInside]
    | cons d more =>
      have hmark : d ≠ q.closing := by simpa using h
      simp [readInside, hmark]
  rw [readInside_doubled_append, hclose]
  simp

/-- A text reads as the inside of an item exactly if it is the inside with its marks doubled, and one mark
that ends it. -/
theorem readInside_eq_some_iff {text inside behind : List Char} :
    q.readInside text = some (inside, behind) ↔
      text = q.doubled inside ++ q.closing :: behind ∧ behind.head? ≠ some q.closing := by
  refine ⟨fun h => ?_, fun ⟨htext, hbehind⟩ => htext ▸ readInside_doubled inside hbehind⟩
  fun_induction readInside q text generalizing inside behind with
  | case1 => cases h
  | case2 more ih =>
    obtain ⟨⟨inner, left⟩, hmore, ⟨⟩⟩ := Option.map_eq_some_iff.1 h
    obtain ⟨rfl, hleft⟩ := ih hmore
    exact ⟨by simp [doubled], hleft⟩
  | case3 d more hmark =>
    cases h
    exact ⟨rfl, by simpa using hmark⟩
  | case4 =>
    cases h
    exact ⟨rfl, by simp⟩
  | case5 c rest hmark ih =>
    obtain ⟨⟨inner, left⟩, hrest, ⟨⟩⟩ := Option.map_eq_some_iff.1 h
    obtain ⟨rfl, hleft⟩ := ih hrest
    exact ⟨by simp [doubled, hmark], hleft⟩

/-- A text reads as an item exactly if it is that item and what is behind it, which does not start with a
closing mark. -/
theorem read_eq_some_iff {text inside behind : List Char} :
    q.read text = some (inside, behind) ↔
      text = q.quote inside ++ behind ∧ behind.head? ≠ some q.closing := by
  cases text with
  | nil => simp [read, quote]
  | cons c rest =>
    by_cases hopen : c = q.opening
    · simp [read, quote, hopen, readInside_eq_some_iff]
    · simp [read, quote, hopen]

/-- An item with any text behind it is read beyond its marks, if it is read at all. -/
theorem prefix_suffix_of_read {name inside behind left : List Char}
    (h : q.read (q.quote name ++ behind) = some (inside, left)) :
    name <+: inside ∧ left <:+ behind := by
  have hread : (q.readInside (q.closing :: behind)).map (fun (more, left) => (name ++ more, left)) =
      some (inside, left) := by
    rw [← readInside_doubled_append, ← h]
    simp [read, quote]
  obtain ⟨⟨more, _⟩, hmore, ⟨⟩⟩ := Option.map_eq_some_iff.1 hread
  obtain ⟨htext, -⟩ := readInside_eq_some_iff.1 hmore
  refine ⟨List.prefix_append name more, ?_⟩
  -- the mark of the item is the first at which reading can end
  have hmark : q.closing :: left <:+ q.closing :: behind := htext ▸ List.suffix_append _ _
  rcases List.suffix_cons_iff.1 hmark with heq | hbehind
  · exact (List.cons.inj heq).2 ▸ List.suffix_refl left
  · exact (List.suffix_cons _ _).trans hbehind

example : brackets.read ['[', 'a', ']', ']', ']', ']', 'b', ']', 'c', ']'] =
    some (['a', ']', ']', 'b'], ['c', ']']) := by decide

end Quotes

namespace Dialect

/-- The name that a text is the identifier of, if it is one. -/
def unquote? (d : Dialect) (quoted : String) : Option String :=
  match d.quotes.read quoted.toList with
  | some (name, []) => some (String.ofList name)
  | _ => none

/-- A text is the identifier of a name exactly if it is the name in quotes. -/
theorem unquote?_eq_some_iff {d : Dialect} {quoted name : String} :
    d.unquote? quoted = some name ↔ quoted = d.quoteIdentifier name := by
  have hread : d.unquote? quoted = some name ↔
      d.quotes.read quoted.toList = some (name.toList, []) := by
    unfold unquote?
    split
    case h_1 inside hinside =>
      rw [hinside]
      simp [← String.toList_inj]
    case h_2 hnone =>
      simpa using hnone name.toList
  rw [hread, Quotes.read_eq_some_iff, quoteIdentifier, ← String.toList_inj, String.toList_ofList]
  simp

@[simp] theorem unquote?_quoteIdentifier (d : Dialect) (name : String) :
    d.unquote? (d.quoteIdentifier name) = some name :=
  unquote?_eq_some_iff.2 rfl

theorem quoteIdentifier_injective (d : Dialect) : Function.Injective d.quoteIdentifier := by
  intro name other h
  have hname := d.unquote?_quoteIdentifier name
  rw [h, unquote?_quoteIdentifier] at hname
  exact (Option.some.inj hname).symm

/-- Whatever the marks of a dialect are, an identifier with a text behind it reads as its name and leaves
that text, unless the text starts with a closing mark. Even then reading does not end inside the identifier.
No two names have one identifier. -/
theorem read_quoteIdentifier (d : Dialect) :
    (∀ name behind : String, behind.toList.head? ≠ some d.quotes.closing →
      d.quotes.read (d.quoteIdentifier name ++ behind).toList = some (name.toList, behind.toList)) ∧
    (∀ (name behind : String) (inside left : List Char),
      d.quotes.read (d.quoteIdentifier name ++ behind).toList = some (inside, left) →
        name.toList <+: inside ∧ left <:+ behind.toList) ∧
    Function.Injective d.quoteIdentifier := by
  have htext : ∀ name behind : String,
      (d.quoteIdentifier name ++ behind).toList = d.quotes.quote name.toList ++ behind.toList := by
    intro name behind
    rw [quoteIdentifier, String.toList_append, String.toList_ofList]
  refine ⟨?_, ?_, d.quoteIdentifier_injective⟩
  · intro name behind hbehind
    rw [htext]
    exact Quotes.read_eq_some_iff.2 ⟨rfl, hbehind⟩
  · intro name behind inside left h
    rw [htext] at h
    exact Quotes.prefix_suffix_of_read h

end Dialect

end ModelIdl
