import Mathlib
import ModelIdl.Proofs.Token.Streams

/-!
# ModelIdl.Proofs.Token.Strings

Strings as they are written and as they are read. Design points:

* **Writing** goes by characters. Five of them have an escape, two of which may also stand for themselves,
  and all others stand for themselves (`Scan.writings`). So a text may have several writings, but a writing
  has one text.
* **Offences.** Behind a quote and a writing of something, a text closes the string, goes on with it, or
  offends, and there are three ways to offend (`Scan.Offends`). A text without a closing quote has a first
  offence (`Scan.closes_or_offends`), and that is what reading it reports (`Cursor.string_reads_back`).
-/

namespace ModelIdl

namespace Scan

/-! ### Writing -/

/-- The ways to write a character between quotes. -/
def writings : Char → List (List Char)
  | '"' => [['\\', '"']]
  | '\\' => [['\\', '\\']]
  | '\n' => [['\\', 'n']]
  | '\t' => [['\\', 't'], ['\t']]
  | '\r' => [['\\', 'r'], ['\r']]
  | c => [[c]]

/-- `Written s text` — between quotes, `text` is a way to write the characters `s`. -/
inductive Written : List Char → List Char → Prop
  | nil : Written [] []
  | cons {c : Char} {w s text : List Char} (first : w ∈ writings c) (rest : Written s text) :
      Written (c :: s) (w ++ text)

/-- All characters can be written. -/
theorem exists_written (s : List Char) : ∃ text, Written s text := by
  induction s with
  | nil => exact ⟨[], .nil⟩
  | cons c s ih =>
    obtain ⟨text, htext⟩ := ih
    have hne : writings c ≠ [] := by
      unfold writings
      split <;> simp
    obtain ⟨w, hw⟩ := List.exists_mem_of_ne_nil _ hne
    exact ⟨w ++ text, .cons hw htext⟩

theorem mem_writings_of_plain {c : Char} (hquote : c ≠ '"') (hescape : c ≠ '\\') (hline : c ≠ '\n') :
    [c] ∈ writings c := by
  unfold writings
  split <;> simp_all

theorem mem_writings_of_unescape? {c d : Char} (h : unescape? c = some d) :
    ['\\', c] ∈ writings d := by
  unfold unescape? at h
  split at h <;> cases h <;> simp [writings]

/-- A way to write a character can stand in a string. -/
theorem stringForm_append_of_mem_writings {c : Char} {w s text : List Char} (hw : w ∈ writings c)
    (rest : StringForm text s) : StringForm (w ++ text) (c :: s) := by
  unfold writings at hw
  split at hw
  case h_1 | h_2 | h_3 =>
    obtain rfl := List.mem_singleton.1 hw
    exact .escape rfl rest
  case h_4 | h_5 =>
    rcases List.mem_pair.1 hw with rfl | rfl
    · exact .escape rfl rest
    · exact .plain (by decide) (by decide) (by decide) rest
  case h_6 hquote hescape hline _ _ =>
    obtain rfl := List.mem_singleton.1 hw
    exact .plain hquote hescape hline rest

theorem Written.stringForm {s text : List Char} (h : Written s text) : StringForm text s := by
  induction h with
  | nil => exact .nil
  | cons first _ ih => exact stringForm_append_of_mem_writings first ih

/-! ### Offences -/

/-- Behind a quote, the text closes the string. -/
def Closes (text : List Char) : Prop :=
  ∃ s body more, Written s body ∧ text = body ++ '"' :: more

/-- `Offends fault taken rest` — where a string should go on, the text `taken ++ rest` does not, for the
fault, and reading stops behind `taken`. -/
inductive Offends : Fault → List Char → List Char → Prop
  | lineFeed (rest : List Char) : Offends .unterminatedString [] ('\n' :: rest)
  | endOfInput : Offends .unterminatedString [] []
  | lastBackslash : Offends .unterminatedString ['\\'] []
  | escape {c : Char} (hc : c ∉ ['"', '\\', 'n', 't', 'r']) (rest : List Char) :
      Offends (.invalidEscape c) ['\\', c] rest

/-- Behind a quote, the text offends, and what is in front of the offence is written as it should be. -/
def HasOffence (text : List Char) : Prop :=
  ∃ s body fault taken rest, Written s body ∧ Offends fault taken rest ∧
    text = body ++ (taken ++ rest)

theorem unescape?_eq_none_iff {c : Char} :
    unescape? c = none ↔ c ∉ ['"', '\\', 'n', 't', 'r'] := by
  unfold unescape?
  split <;> simp_all

/-- A further character in front changes nothing about what closes the string, or about its offence. -/
theorem closes_or_hasOffence_append {c : Char} {w rest : List Char} (hw : w ∈ writings c)
    (h : Closes rest ∨ HasOffence rest) : Closes (w ++ rest) ∨ HasOffence (w ++ rest) := by
  obtain ⟨s, body, more, hbody, rfl⟩ | ⟨s, body, fault, taken, more, hbody, hoffends, rfl⟩ := h
  · exact .inl ⟨c :: s, w ++ body, more, .cons hw hbody, by rw [List.append_assoc]⟩
  · exact .inr ⟨c :: s, w ++ body, fault, taken, more, .cons hw hbody, hoffends,
      by rw [List.append_assoc]⟩

/-- Every text closes the string behind a quote or has a first offence. -/
theorem closes_or_hasOffence (text : List Char) : Closes text ∨ HasOffence text := by
  fun_induction stringBody text with
  | case1 => exact .inr ⟨[], [], _, _, _, .nil, .endOfInput, rfl⟩
  | case2 rest => exact .inl ⟨[], [], rest, .nil, rfl⟩
  | case3 rest => exact .inr ⟨[], [], _, _, _, .nil, .lineFeed rest, rfl⟩
  | case4 => exact .inr ⟨[], [], _, _, _, .nil, .lastBackslash, rfl⟩
  | case5 c rest d hd ih => exact closes_or_hasOffence_append (mem_writings_of_unescape? hd) ih
  | case6 c rest hd =>
    exact .inr ⟨[], [], _, _, _, .nil, .escape (unescape?_eq_none_iff.1 hd) rest, rfl⟩
  | case7 c rest hquote hline hlast hescape ih =>
    -- a backslash is followed by nothing or by something, and both were read above
    have hbackslash : c ≠ '\\' := by
      rintro rfl
      cases rest with
      | nil => exact hlast rfl rfl
      | cons d rest => exact hescape d rest rfl rfl
    exact closes_or_hasOffence_append (mem_writings_of_plain hquote hbackslash hline) ih

/-! ### Reading -/

theorem stringBody_of_offends {fault : Fault} {taken rest : List Char} (h : Offends fault taken rest) :
    stringBody (taken ++ rest) = ⟨.error fault, taken, rest⟩ := by
  cases h with
  | lineFeed rest => rfl
  | endOfInput => rfl
  | lastBackslash => rfl
  | escape hc rest => simp [stringBody, unescape?_eq_none_iff.2 hc]

/-- A string is refused at its first offence. -/
theorem token_of_offends {s body taken rest : List Char} {fault : Fault} (hbody : Written s body)
    (h : Offends fault taken rest) :
    token ('"' :: (body ++ (taken ++ rest))) = ⟨.error fault, '"' :: (body ++ taken), rest⟩ := by
  rw [token.eq_2, stringBody_append_of_stringForm hbody.stringForm, stringBody_of_offends h]
  rfl

end Scan

/-- Every text can be written between quotes, and however it is written, it is read back with its quotes and
nothing else, whatever follows. What does not go on to a closing quote is refused from its opening quote on,
for the first offence in it. -/
theorem Cursor.string_reads_back :
    (∀ s : String, ∃ body, Scan.Written s.toList body) ∧
    (∀ (s : String) (body more : List Char) (p : Position), Scan.Written s.toList body →
      (⟨p, '"' :: (body ++ '"' :: more)⟩ : Cursor).lexeme =
          ⟨.ok (.string s), p.to (p.after ('"' :: (body ++ ['"'])))⟩ ∧
        (⟨p, '"' :: (body ++ '"' :: more)⟩ : Cursor).next =
          ⟨p.after ('"' :: (body ++ ['"'])), more⟩) ∧
    ∀ (text : List Char) (p : Position), ¬ Scan.Closes text →
      ∃ s body fault taken rest, Scan.Written s body ∧ Scan.Offends fault taken rest ∧
        text = body ++ (taken ++ rest) ∧
        (⟨p, '"' :: text⟩ : Cursor).lexeme =
          ⟨.error fault, p.to (p.after ('"' :: (body ++ taken)))⟩ ∧
        (⟨p, '"' :: text⟩ : Cursor).next = ⟨p.after ('"' :: (body ++ taken)), rest⟩ := by
  have hgap (text : List Char) : Gap.split ([] ++ '"' :: text) = ([], '"' :: text) :=
    split_of_first (by decide) (by decide) text
  refine ⟨fun s => Scan.exists_written s.toList, fun s body more p hbody => ?_,
    fun text p hopen => ?_⟩
  · have hspells := Spells.string hbody.stringForm
    rw [String.ofList_toList] at hspells
    have hends : (Token.string s).EndsAt more := trivial
    have hscan := token_of_spells hspells hends
    rw [List.cons_append, List.append_assoc, List.singleton_append] at hscan
    exact step_of_scan [] (hgap _) hscan p
  · obtain ⟨s, body, fault, taken, rest, hbody, hoffends, rfl⟩ :=
      (Scan.closes_or_hasOffence text).resolve_left hopen
    obtain ⟨hlexeme, hnext⟩ := step_of_scan [] (hgap _) (Scan.token_of_offends hbody hoffends) p
    exact ⟨s, body, fault, taken, rest, hbody, hoffends, rfl, hlexeme, hnext⟩

/-- An escaped quote closes nothing, and a line feed behind a backslash is an escape that does not exist. -/
theorem Cursor.string_reads_back_escapes :
    Scan.Written "\"\t\t".toList ['\\', '"', '\t', '\\', 't'] ∧
    (⟨.origin, '"' :: (['\\', '"', '\t', '\\', 't'] ++ '"' :: ['"'])⟩ : Cursor).lexeme =
      ⟨.ok (.string "\"\t\t"), ⟨0, 7, 1, 1⟩⟩ ∧
    ¬ Scan.Closes ['\\', '"', 'x', '\\', '\n', '"'] ∧
    ∃ s body fault taken rest, Scan.Written s body ∧ Scan.Offends fault taken rest ∧
      ['\\', '"', 'x', '\\', '\n', '"'] = body ++ (taken ++ rest) ∧
      (⟨.error fault, Position.origin.to (Position.origin.after ('"' :: (body ++ taken)))⟩ : Lexeme Span) =
        ⟨.error (.invalidEscape '\n'), ⟨0, 6, 1, 1⟩⟩ := by
  obtain ⟨-, hreads, hrefuses⟩ := string_reads_back
  have hwritten : Scan.Written "\"\t\t".toList ['\\', '"', '\t', '\\', 't'] := by
    have hlist : "\"\t\t".toList = ['"', '\t', '\t'] := by decide
    rw [hlist]
    exact .cons (w := ['\\', '"']) (by decide) (.cons (w := ['\t']) (by decide)
      (.cons (w := ['\\', 't']) (by decide) .nil))
  have hfault : (⟨.origin, '"' :: ['\\', '"', 'x', '\\', '\n', '"']⟩ : Cursor).lexeme =
      ⟨.error (.invalidEscape '\n'), ⟨0, 6, 1, 1⟩⟩ := by cbv
  have hopen : ¬ Scan.Closes ['\\', '"', 'x', '\\', '\n', '"'] := by
    rintro ⟨s, body, more, hbody, htext⟩
    have hread := hreads (String.ofList s) body more .origin (by rwa [String.toList_ofList])
    rw [← htext, hfault] at hread
    cases hread.1
  obtain ⟨s, body, fault, taken, rest, hbody, hoffends, htext, hlexeme, -⟩ :=
    hrefuses _ Position.origin hopen
  refine ⟨hwritten, (hreads _ _ ['"'] .origin hwritten).1, hopen, s, body, fault, taken, rest, hbody,
    hoffends, htext, ?_⟩
  rw [← hlexeme, hfault]

end ModelIdl
