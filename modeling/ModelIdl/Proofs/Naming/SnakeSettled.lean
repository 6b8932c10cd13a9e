import ModelIdl.Proofs.Naming.SnakeForm

/-!
# ModelIdl.Proofs.Naming.SnakeSettled

The names that stay as they are in snake case. Design points:

* **Settled names** have no capital, no hyphen, no blank, and no underscore behind another. All of these
  and no others are left alone.
* **One round settles.** What is made of a name is settled if no capital of the name has a capital in its
  small form (`Lowers`). A second round then changes nothing (`toSnakeCase_settles`). For ASCII that is no
  condition.
* **The condition is needed.** Some capitals have no small form. Such a one stays, and can begin a word in
  the second round that it did not begin in the first.
-/

namespace ModelIdl

namespace SnakeCase

/-- No capital of a name has a capital in its small form. -/
def Lowers (name : List Char) : Prop :=
  ∀ c ∈ name, Text.isUppercase c = true → ∀ x ∈ Text.lowered c, Text.isUppercase x = false

instance (name : List Char) : Decidable (Lowers name) :=
  decidable_of_iff
    (name.all fun c => !Text.isUppercase c || (Text.lowered c).all fun x => !Text.isUppercase x)
    (by simp only [Lowers, List.all_eq_true, Bool.or_eq_true, Bool.not_eq_true', ← Bool.not_eq_true,
      Decidable.imp_iff_not_or])

/-- A name that the snake case leaves as it is. -/
structure IsSettled (name : List Char) : Prop where
  not_uppercase : ∀ c ∈ name, Text.isUppercase c = false
  not_hyphen : '-' ∉ name
  not_blank : ∀ c ∈ name, Text.isBlank c = false
  single : ¬ ['_', '_'] <:+: name

namespace IsSettled

variable {name : List Char}

/-- The only separators of a settled name are underscores. -/
theorem eq_underscore (h : IsSettled name) {c : Char} (hc : c ∈ name) (hsep : isSeparator c = true) :
    c = '_' := by
  have hhyphen : c ≠ '-' := by
    rintro rfl
    exact h.not_hyphen hc
  simpa [isSeparator, hhyphen, h.not_blank c hc] using hsep

theorem tail {c : Char} (h : IsSettled (c :: name)) : IsSettled name where
  not_uppercase d hd := h.not_uppercase d (List.mem_cons_of_mem _ hd)
  not_hyphen hd := h.not_hyphen (List.mem_cons_of_mem _ hd)
  not_blank d hd := h.not_blank d (List.mem_cons_of_mem _ hd)
  single hscores := h.single (hscores.trans (List.suffix_cons c name).isInfix)

/-- In front of a separator a settled name has no other. -/
theorem not_adjacent {c : Char} (h : IsSettled (c :: name)) (hnext : name.head?.any isSeparator = true) :
    isSeparator c = false := by
  rw [← Bool.not_eq_true]
  intro hc
  obtain rfl := h.eq_underscore (.head _) hc
  cases name with
  | nil => cases hnext
  | cons d rest =>
    obtain rfl := h.tail.eq_underscore (.head _) (by simpa using hnext)
    exact h.single (List.prefix_append ['_', '_'] rest).isInfix

/-- A settled name is left alone, unless it starts with a separator behind another. -/
theorem pieces_eq (h : IsSettled name) {before : Option Char}
    (hbefore : name.head?.any isSeparator = true → before.any isSeparator = false) :
    pieces before name = name := by
  induction name generalizing before with
  | nil => rfl
  | cons c rest ih =>
    have hrest : pieces (some c) rest = rest := ih h.tail h.not_adjacent
    rw [pieces_cons, hrest]
    cases hc : isSeparator c with
    | true =>
      obtain rfl := h.eq_underscore (.head _) hc
      simp [piece, hc, hbefore hc]
    | false =>
      have hupper := h.not_uppercase c (.head _)
      rw [piece_letter hc]
      simp [beginsWord, image, hupper]

end IsSettled

/-- What is made of a name without its underscores is the images of its letters. -/
theorem mem_snake {name : List Char} {x : Char} (hx : x ∈ snake name) :
    x = '_' ∨ ∃ c ∈ name, isSeparator c = false ∧ x ∈ image c := by
  by_cases hscore : x = '_'
  · exact .inl hscore
  · have hplain : x ∈ plain (snake name) := by simp [plain, hx, hscore]
    rw [snake, plain_pieces, images, List.mem_flatMap] at hplain
    obtain ⟨c, hc, hximage⟩ := hplain
    obtain ⟨hmem, hletter⟩ := List.mem_filter.1 hc
    exact .inr ⟨c, hmem, by simpa using hletter, hximage⟩

theorem Lowers.settled_snake {name : List Char} (h : Lowers name) : IsSettled (snake name) := by
  have hseparator : ∀ x ∈ snake name, x = '_' ∨ isSeparator x = false := by
    intro x hx
    obtain rfl | ⟨c, -, hc, hximage⟩ := mem_snake hx
    · exact .inl rfl
    · exact .inr (isSeparator_of_mem_image hc hximage)
  refine ⟨fun x hx => ?_, fun hx => ?_, fun x hx => ?_, (isSnakeOf_snake name).single⟩
  · obtain rfl | ⟨c, hc, -, hximage⟩ := mem_snake hx
    · decide
    · unfold image at hximage
      split at hximage
      case isTrue hupper => exact h c hc hupper x hximage
      case isFalse hupper =>
        obtain rfl := List.mem_singleton.1 hximage
        simpa using hupper
  · obtain hscore | hletter := hseparator _ hx
    · exact absurd hscore (by decide)
    · exact absurd hletter (by decide)
  · obtain rfl | hletter := hseparator x hx
    · decide
    · rw [isSeparator, Bool.or_eq_false_iff] at hletter
      exact hletter.2

theorem lowers_of_ascii {name : List Char} (h : Ascii name) : Lowers name := by
  intro c hc _ x hx
  have hascii := h c hc
  rw [lowered_of_ascii hascii, List.mem_singleton] at hx
  rw [hx, isUppercase_of_ascii (toNat_toLower_lt hascii), Char.isUpper_toLower_eq_false]

end SnakeCase

/-- In snake case, a name whose capitals have no capitals in their small form stays as it is from the second
round on. In the first round it does exactly if it has no capital, no hyphen, no blank and no two adjacent
underscores. All names in ASCII are such names. -/
theorem toSnakeCase_settles :
    (∀ name : String, SnakeCase.Lowers name.toList →
      toSnakeCase (toSnakeCase name) = toSnakeCase name ∧
        (toSnakeCase name = name ↔ SnakeCase.IsSettled name.toList)) ∧
    ∀ name : String, SnakeCase.Ascii name.toList → SnakeCase.Lowers name.toList := by
  have hstays {name : String} (h : SnakeCase.IsSettled name.toList) : toSnakeCase name = name := by
    rw [toSnakeCase, SnakeCase.snake, h.pieces_eq fun _ => rfl, String.ofList_toList]
  refine ⟨fun name h => ?_, fun _ => SnakeCase.lowers_of_ascii⟩
  have hsettled : SnakeCase.IsSettled (toSnakeCase name).toList := by
    rw [toList_toSnakeCase]
    exact h.settled_snake
  refine ⟨hstays hsettled, fun hsame => ?_, hstays⟩
  rwa [hsame] at hsettled

/-- The dotted capital becomes two characters, and the mark is no letter that a word could begin with. -/
theorem toSnakeCase_settles_dotted :
    let name := "PTTİzmir-Şube  2Go"
    SnakeCase.Lowers name.toList ∧ toSnakeCase name = "ptt_i̇zmir_şube_2_go" ∧
      toSnakeCase (toSnakeCase name) = toSnakeCase name ∧ ¬ SnakeCase.IsSettled name.toList := by
  intro name
  have hlowers : SnakeCase.Lowers name.toList := by decide
  have hsnake : toSnakeCase name = "ptt_i̇zmir_şube_2_go" := by cbv
  obtain ⟨htwice, hsettled⟩ := toSnakeCase_settles.1 name hlowers
  refine ⟨hlowers, hsnake, htwice, fun h => ?_⟩
  have hsame := hsettled.2 h
  rw [hsnake] at hsame
  revert hsame
  decide

/-- A capital without a small form begins a word in the second round only. -/
example : toSnakeCase "Aϒ" = "aϒ" ∧ toSnakeCase "aϒ" = "a_ϒ" := ⟨by cbv, by cbv⟩

end ModelIdl
