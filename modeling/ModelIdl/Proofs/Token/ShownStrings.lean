import ModelIdl.Proofs.Token.Layout
import ModelIdl.Proofs.Token.Strings
import ModelIdl.Text.Shown

/-!
# ModelIdl.Proofs.Token.ShownStrings

Strings as they are shown, read back. Showing and reading share some escapes only. Design points:

* **Three ways to show a character.** It stands for itself, it has an escape that reading knows, or it has
  one that reading does not know (`Text.shownInString_cases`). Characters of the first two ways are shown
  *readably*.
* **A shown string is a writing of itself** if all its characters are shown readably, and otherwise it offends
  at the first that is not (`Scan.offends_of_not_readable`).
* **Faults spoil what is in front.** A text that is laid out as tokens in front of a text with a fault has that
  fault (`Lays.faulty`).
-/

namespace ModelIdl

/-! ### Characters -/

namespace Text

/-- The character is shown as it is, or by an escape that can be read: `\"`, `\\`, `\n`, `\t` or `\r`. -/
def Readable (c : Char) : Prop :=
  shownInString c = [c] ∨
    shownInString c ∈ [['\\', '"'], ['\\', '\\'], ['\\', 'n'], ['\\', 't'], ['\\', 'r']]

instance (c : Char) : Decidable (Readable c) :=
  inferInstanceAs (Decidable (_ ∨ _))

/-- A character that is shown as it is can stand in a string, an escape is read as the character, or it is not
known. -/
theorem shownInString_cases (c : Char) :
    (shownInString c = [c] ∧ c ≠ '"' ∧ c ≠ '\\' ∧ c ≠ '\n') ∨
    (∃ x, shownInString c = ['\\', x] ∧ Scan.unescape? x = some c) ∨
    ∃ x rest, shownInString c = '\\' :: x :: rest ∧ x ∉ ['"', '\\', 'n', 't', 'r'] := by
  unfold shownInString
  by_cases hquote : c = '\x27'
  · subst hquote
    exact .inl (by decide)
  · rw [if_neg hquote]
    unfold shownChar
    cases hletter : escapeLetter? c with
    | none =>
      have hplain : c ≠ '"' ∧ c ≠ '\\' ∧ c ≠ '\n' := by
        refine ⟨?_, ?_, ?_⟩ <;> rintro rfl <;> cases hletter
      simp only
      split
      · exact .inl ⟨rfl, hplain⟩
      · exact .inr (.inr ⟨'u', _, rfl, by decide⟩)
    | some letter =>
      unfold escapeLetter? at hletter
      split at hletter
      case h_1 =>
        cases hletter
        exact .inr (.inr ⟨'0', [], rfl, by decide⟩)
      case h_7 => exact absurd rfl hquote
      case h_8 => cases hletter
      all_goals
        cases hletter
        exact .inr (.inl ⟨_, rfl, rfl⟩)

/-- An escape that is not known is no readable one. -/
theorem not_readable_of_shown {c x : Char} {rest : List Char} (hshown : shownInString c = '\\' :: x :: rest)
    (hx : x ∉ ['"', '\\', 'n', 't', 'r']) : ¬ Readable c := by
  rintro (h | h)
  · rw [hshown] at h
    cases h
  · rw [hshown] at h
    simp only [List.mem_cons, List.cons.injEq, List.not_mem_nil, true_and, or_false] at h hx
    tauto

end Text

/-! ### Strings -/

namespace Scan

open Text (shownInString Readable)

/-- A character that is shown readably is shown in a way to write it. -/
theorem mem_writings_of_readable {c : Char} (h : Readable c) : shownInString c ∈ writings c := by
  rcases Text.shownInString_cases c with ⟨hshown, hquote, hescape, hline⟩ | ⟨x, hshown, hmeans⟩ |
    ⟨x, rest, hshown, hx⟩
  · rw [hshown]
    exact mem_writings_of_plain hquote hescape hline
  · rw [hshown]
    exact mem_writings_of_unescape? hmeans
  · exact absurd h (Text.not_readable_of_shown hshown hx)

theorem written_of_readable {s : List Char} (h : ∀ c ∈ s, Readable c) :
    Written s (s.flatMap shownInString) := by
  induction s with
  | nil => exact .nil
  | cons c s ih =>
    obtain ⟨hc, hs⟩ := List.forall_mem_cons.1 h
    rw [List.flatMap_cons]
    exact .cons (mem_writings_of_readable hc) (ih hs)

/-- What is not shown readably offends, whatever is shown behind it. -/
theorem offends_of_not_readable {c : Char} (h : ¬ Readable c) (more : List Char) :
    ∃ x rest, shownInString c ++ more = ['\\', x] ++ rest ∧
      Offends (.invalidEscape x) ['\\', x] rest := by
  rcases Text.shownInString_cases c with ⟨hshown, -⟩ | ⟨x, hshown, hmeans⟩ | ⟨x, rest, hshown, hx⟩
  · exact absurd (.inl hshown) h
  · have hx : x ∈ ['"', '\\', 'n', 't', 'r'] := by
      by_contra hnot
      rw [unescape?_eq_none_iff.2 hnot] at hmeans
      cases hmeans
    refine absurd (.inr ?_) h
    rw [hshown]
    simpa using hx
  · exact ⟨x, rest ++ more, by rw [hshown]; rfl, .escape hx _⟩

/-- A shown string offends at the first character that is not shown readably. -/
theorem hasOffence_of_not_readable {s : List Char} (h : ¬ ∀ c ∈ s, Readable c) (more : List Char) :
    HasOffence (s.flatMap shownInString ++ more) := by
  induction s with
  | nil => exact absurd (fun c hc => by cases hc) h
  | cons c s ih =>
    rw [List.flatMap_cons, List.append_assoc]
    by_cases hc : Readable c
    · have hs : ¬ ∀ d ∈ s, Readable d := fun hall => h (List.forall_mem_cons.2 ⟨hc, hall⟩)
      obtain ⟨s', body, fault, taken, rest, hbody, hoffends, heq⟩ := ih hs
      refine ⟨c :: s', shownInString c ++ body, fault, taken, rest,
        .cons (mem_writings_of_readable hc) hbody, hoffends, ?_⟩
      rw [heq, List.append_assoc]
    · obtain ⟨x, rest, heq, hoffends⟩ := offends_of_not_readable hc (s.flatMap shownInString ++ more)
      exact ⟨[], [], _, _, rest, .nil, hoffends, heq⟩

end Scan

theorem toList_shownString (s : String) :
    (Text.shownString s).toList = '"' :: (s.toList.flatMap Text.shownInString ++ ['"']) := by
  rw [Text.shownString, String.toList_ofList, List.cons_append]

/-- A string whose characters are shown readably is spelled as it is shown. -/
theorem spells_shownString {s : String} (h : ∀ c ∈ s.toList, Text.Readable c) :
    Spells (Text.shownString s).toList (.string s) := by
  have hspells := Spells.string (Scan.written_of_readable h).stringForm
  rwa [String.ofList_toList, ← toList_shownString] at hspells

/-! ### Texts with a fault -/

/-- Wherever it begins, the text has a fault. -/
def Faulty (text : List Char) : Prop :=
  ∀ p : Position, ∃ fault place, (⟨p, text⟩ : Cursor).stream.1.ending = .faulty fault place

/-- A fault in a text is one of any tokens that are laid out in front of it. -/
theorem Lays.faulty {text more : List Char} {kinds : List Token} (h : Lays text kinds more)
    (hmore : Faulty more) : Faulty (text ++ more) := by
  induction h with
  | nil => exact hmore
  | @item gap lexeme text more t kinds apart spells _ ends ih =>
    intro p
    have hsplit : Gap.split (gap ++ lexeme ++ (text ++ more)) = (gap, lexeme ++ (text ++ more)) := by
      rw [List.append_assoc]
      exact Gap.split_append_of_gapForm apart (split_append_of_spells spells _) False.elim
    obtain ⟨hlexeme, hnext⟩ := Cursor.step_of_spells gap hsplit spells ends p
    obtain ⟨fault, place, hending⟩ := ih hmore ((p.after gap).after lexeme)
    refine ⟨fault, place, ?_⟩
    rw [List.append_assoc _ text, Cursor.stream_of_token (by rw [hlexeme]) (ne_of_spells spells).1, hnext]
    exact hending

/-- A string has a fault if not all its characters are shown readably. -/
theorem faulty_shownString {s : String} (h : ¬ ∀ c ∈ s.toList, Text.Readable c) {gap : List Char}
    (hgap : GapForm False gap) (more : List Char) :
    Faulty (gap ++ ((Text.shownString s).toList ++ more)) := by
  intro p
  obtain ⟨s', body, fault, taken, rest, hbody, hoffends, hshown⟩ :=
    Scan.hasOffence_of_not_readable h (['"'] ++ more)
  rw [toList_shownString, List.cons_append, List.append_assoc, hshown]
  have hquote : Gap.split ('"' :: (body ++ (taken ++ rest))) = ([], '"' :: (body ++ (taken ++ rest))) :=
    split_of_first (by decide) (by decide) _
  have hsplit := Gap.split_append_of_gapForm hgap hquote False.elim
  obtain ⟨hlexeme, -⟩ := Cursor.step_of_scan gap hsplit (Scan.token_of_offends hbody hoffends) p
  rw [Cursor.stream_of_fault (by rw [hlexeme])]
  exact ⟨_, _, rfl⟩

end ModelIdl
