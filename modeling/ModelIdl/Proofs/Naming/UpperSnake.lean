import ModelIdl.Proofs.Naming.SnakeSettled

/-!
# ModelIdl.Proofs.Naming.UpperSnake

What becomes of a name in `UPPER_SNAKE_CASE` if it is changed once more. Design points:

* **Two rounds are not one.** In capitals a word begins at each letter behind a digit, in small letters it
  does not. So the second round adds an underscore there (`digitsApart`), and nothing else: `order2item`
  becomes `ORDER2ITEM`, and that `ORDER2_ITEM`.
* **Only such places count.** The way back to small letters and the second round in capitals give the first
  form again exactly if no digit meets a letter in it (`toUpperSnakeCase_again`).
-/

namespace ModelIdl

namespace SnakeCase

/-! ### Digits in front of letters -/

/-- An underscore if a letter follows on a digit. -/
def digitJoint (before behind : Option Char) : List Char :=
  if before.any Char.isDigit && behind.any Char.isAlpha then ['_'] else []

/-- A text with an underscore between each digit and a letter directly behind it. -/
def digitsApart : List Char → List Char
  | [] => []
  | c :: rest => c :: digitJoint (some c) rest.head? ++ digitsApart rest

/-- Somewhere in the text a letter stands directly behind a digit. -/
def DigitMeetsLetter (text : List Char) : Prop :=
  ∃ front c d behind, text = front ++ c :: d :: behind ∧ c.isDigit = true ∧ d.isAlpha = true

theorem not_digitMeetsLetter_iff_isChain {text : List Char} :
    ¬ DigitMeetsLetter text ↔ text.IsChain fun c d => c.isDigit = true → d.isAlpha = false := by
  rw [List.isChain_iff_forall_rel_of_append_cons_cons]
  constructor
  · intro h c d front behind htext hdigit
    rw [← Bool.not_eq_true]
    exact fun halpha => h ⟨front, c, d, behind, htext, hdigit, halpha⟩
  · rintro h ⟨front, c, d, behind, htext, hdigit, halpha⟩
    rw [h htext hdigit] at halpha
    cases halpha

theorem digitJoint_eq_nil_iff {c : Char} {behind : Option Char} :
    digitJoint (some c) behind = [] ↔ ∀ d ∈ behind, c.isDigit = true → d.isAlpha = false := by
  cases behind <;> simp [digitJoint]

theorem length_le_digitsApart (text : List Char) : text.length ≤ (digitsApart text).length := by
  induction text with
  | nil => exact Nat.le_refl 0
  | cons c rest ih =>
    rw [digitsApart, List.cons_append, List.length_cons, List.length_cons, List.length_append]
    omega

/-- A text that gets no longer has no digit in front of a letter. -/
theorem not_digitMeetsLetter_of_length {text : List Char}
    (h : (digitsApart text).length = text.length) : ¬ DigitMeetsLetter text := by
  rw [not_digitMeetsLetter_iff_isChain]
  induction text with
  | nil => exact .nil
  | cons c rest ih =>
    have hle := length_le_digitsApart rest
    rw [digitsApart, List.cons_append, List.length_cons, List.length_cons, List.length_append] at h
    have hjoint : digitJoint (some c) rest.head? = [] := List.length_eq_zero_iff.1 (by omega)
    exact List.isChain_cons.2 ⟨digitJoint_eq_nil_iff.1 hjoint, ih (by omega)⟩

theorem digitsApart_eq_self {text : List Char} (h : ¬ DigitMeetsLetter text) :
    digitsApart text = text := by
  rw [not_digitMeetsLetter_iff_isChain] at h
  induction text with
  | nil => rfl
  | cons c rest ih =>
    obtain ⟨hhead, hrest⟩ := List.isChain_cons.1 h
    rw [digitsApart, ih hrest, digitJoint_eq_nil_iff.2 hhead]
    rfl

/-- Taking digits apart keeps a text, up to a change of single characters, exactly if no digit meets a
letter. -/
theorem map_digitsApart_eq_iff {text : List Char} (f : Char → Char) :
    (digitsApart text).map f = text.map f ↔ ¬ DigitMeetsLetter text := by
  constructor
  · intro h
    refine not_digitMeetsLetter_of_length ?_
    simpa using congrArg List.length h
  · intro h
    rw [digitsApart_eq_self h]

/-! ### Names in ASCII -/

theorem ascii_digitJoint (before behind : Option Char) : Ascii (digitJoint before behind) := by
  unfold digitJoint
  split <;> simp [Ascii]

theorem ascii_digitsApart {text : List Char} (h : Ascii text) : Ascii (digitsApart text) := by
  induction text with
  | nil => exact h
  | cons c rest ih =>
    obtain ⟨hc, hrest⟩ := List.forall_mem_cons.1 h
    rw [digitsApart, Ascii, List.forall_mem_append, List.forall_mem_cons]
    exact ⟨⟨hc, ascii_digitJoint _ _⟩, ih hrest⟩

theorem ascii_snake {name : List Char} (h : Ascii name) : Ascii (snake name) := by
  intro x hx
  obtain rfl | ⟨c, hc, -, hximage⟩ := mem_snake hx
  · decide
  · rw [image_of_ascii (h c hc), List.mem_singleton] at hximage
    rw [hximage]
    exact toNat_toLower_lt (h c hc)

theorem flatMap_raised_of_ascii {text : List Char} (h : Ascii text) :
    text.flatMap Text.raised = text.map Char.toUpper := by
  induction text with
  | nil => rfl
  | cons c rest ih =>
    obtain ⟨hc, hrest⟩ := List.forall_mem_cons.1 h
    rw [List.flatMap_cons, raised_of_ascii hc, ih hrest, List.map_cons, List.singleton_append]

/-! ### In capitals -/

/-- Among capitals a word begins at the letters behind a digit only. -/
theorem beginsWord_toUpper {b c : Char} (hb : b.toNat < 128) (hc : c.toNat < 128)
    {behind : Option Char} (hbehind : ∀ d ∈ behind, d.toNat < 128) :
    beginsWord b.toUpper c.toUpper (behind.map Char.toUpper) = (b.isDigit && c.isAlpha) := by
  have hsmall {d : Char} (hd : d.toNat < 128) : Text.isLowercase d.toUpper = false := by
    rw [isLowercase_of_ascii (toNat_toUpper_lt hd), Char.isLower_toUpper_eq_false]
  have hnext : (behind.map Char.toUpper).any Text.isLowercase = false := by
    cases behind with
    | none => rfl
    | some d => simpa using hsmall (hbehind d rfl)
  rw [beginsWord, hsmall hb, hnext, isDigit_toUpper hb, isUppercase_of_ascii (toNat_toUpper_lt hc),
    Char.isUpper_toUpper_eq_isAlpha, Bool.and_false, Bool.or_false, Bool.false_or, Bool.and_comm]

/-- A small letter comes back from its capital, and what is no letter stays. -/
theorem image_toUpper {c : Char} (hc : c.toNat < 128) (hupper : Text.isUppercase c = false) :
    image c.toUpper = [c] := by
  rw [isUppercase_of_ascii hc, ← Bool.not_eq_true] at hupper
  rw [image_of_ascii (toNat_toUpper_lt hc), Char.toLower_toUpper_eq_toLower,
    Char.toLower_eq_of_not_isUpper hupper]

/-- Of a settled name, what a character in capitals becomes again. -/
theorem piece_toUpper {c : Char} {rest : List Char} (hascii : Ascii (c :: rest))
    (h : IsSettled (c :: rest)) {before : Option Char} (hbefore : ∀ b ∈ before, b.toNat < 128)
    (hadjacent : isSeparator c = true → before.any isSeparator = false) :
    piece (before.map Char.toUpper) c.toUpper (rest.head?.map Char.toUpper) =
      digitJoint before (some c) ++ [c] := by
  obtain ⟨hc, hrest⟩ := List.forall_mem_cons.1 hascii
  cases hsep : isSeparator c with
  | true =>
    obtain rfl := h.eq_underscore (.head _) hsep
    have hnot : (before.map Char.toUpper).any isSeparator = false := by
      cases before with
      | none => rfl
      | some b => simpa [isSeparator_toUpper (hbefore b rfl)] using hadjacent hsep
    rw [piece, if_pos (by decide), hnot]
    simp [digitJoint]
  | false =>
    have hword : (before.map Char.toUpper).any
          (beginsWord · c.toUpper (rest.head?.map Char.toUpper)) =
        (before.any Char.isDigit && c.isAlpha) := by
      cases before with
      | none => rfl
      | some b =>
        exact beginsWord_toUpper (hbefore b rfl) hc fun d hd => hrest d (List.mem_of_mem_head? hd)
    rw [piece_letter (by rwa [isSeparator_toUpper hc]), hword,
      image_toUpper hc (h.not_uppercase c (.head _)), digitJoint, Option.any_some]

/-- A settled name goes to capitals and back with its digits apart. -/
theorem pieces_toUpper {text : List Char} (hascii : Ascii text) (h : IsSettled text)
    {before : Option Char} (hbefore : ∀ b ∈ before, b.toNat < 128)
    (hadjacent : text.head?.any isSeparator = true → before.any isSeparator = false) :
    pieces (before.map Char.toUpper) (text.map Char.toUpper) =
      digitJoint before text.head? ++ digitsApart text := by
  induction text generalizing before with
  | nil => simp [pieces, digitJoint, digitsApart]
  | cons c rest ih =>
    obtain ⟨hc, hrest⟩ := List.forall_mem_cons.1 hascii
    have hbehind : pieces ((some c).map Char.toUpper) (rest.map Char.toUpper) =
        digitJoint (some c) rest.head? ++ digitsApart rest :=
      ih hrest h.tail (by simpa using hc) h.not_adjacent
    rw [List.map_cons, pieces_cons, List.head?_map, piece_toUpper hascii h hbefore hadjacent,
      ← Option.map_some, hbehind, digitsApart, List.head?_cons]
    simp only [List.append_assoc, List.cons_append, List.nil_append]

theorem snake_upperSnake {name : List Char} (h : Ascii name) :
    snake (upperSnake name) = digitsApart (snake name) := by
  have hascii := ascii_snake h
  have hstart : ∀ b ∈ (none : Option Char), b.toNat < 128 := by simp
  rw [upperSnake, flatMap_raised_of_ascii hascii]
  exact pieces_toUpper hascii (lowers_of_ascii h).settled_snake hstart fun _ => rfl

end SnakeCase

theorem toList_toUpperSnakeCase (name : String) :
    (toUpperSnakeCase name).toList = SnakeCase.upperSnake name.toList :=
  String.toList_ofList

/-- In ASCII, the way from capitals back to small letters puts an underscore between each digit and a letter
directly behind it, and so does a second round in capitals. So capitals stay as they are in the second
round, and the way back gives the small letters again, exactly if in these no letter stands directly behind
a digit. -/
theorem toUpperSnakeCase_again (name : String) (h : SnakeCase.Ascii name.toList) :
    let small := (toSnakeCase name).toList
    (toSnakeCase (toUpperSnakeCase name)).toList = SnakeCase.digitsApart small ∧
    (toUpperSnakeCase (toUpperSnakeCase name)).toList =
      (SnakeCase.digitsApart small).map Char.toUpper ∧
    (toUpperSnakeCase (toUpperSnakeCase name) = toUpperSnakeCase name ↔
      ¬ SnakeCase.DigitMeetsLetter small) ∧
    (toSnakeCase (toUpperSnakeCase name) = toSnakeCase name ↔ ¬ SnakeCase.DigitMeetsLetter small) := by
  intro small
  have hlist : small = SnakeCase.snake name.toList := toList_toSnakeCase name
  have hsmall : SnakeCase.Ascii small := hlist ▸ SnakeCase.ascii_snake h
  have hupper : (toUpperSnakeCase name).toList = small.map Char.toUpper := by
    rw [toList_toUpperSnakeCase, SnakeCase.upperSnake, ← hlist, SnakeCase.flatMap_raised_of_ascii hsmall]
  have hback : (toSnakeCase (toUpperSnakeCase name)).toList = SnakeCase.digitsApart small := by
    rw [toList_toSnakeCase, toList_toUpperSnakeCase, SnakeCase.snake_upperSnake h, hlist]
  have hagain : (toUpperSnakeCase (toUpperSnakeCase name)).toList =
      (SnakeCase.digitsApart small).map Char.toUpper := by
    rw [toList_toUpperSnakeCase, SnakeCase.upperSnake, ← toList_toSnakeCase, hback,
      SnakeCase.flatMap_raised_of_ascii (SnakeCase.ascii_digitsApart hsmall)]
  refine ⟨hback, hagain, ?_, ?_⟩
  · rw [← String.toList_inj, hagain, hupper, SnakeCase.map_digitsApart_eq_iff]
  · rw [← String.toList_inj, hback]
    have hkeeps : (SnakeCase.digitsApart small).map id = small.map id ↔
        ¬ SnakeCase.DigitMeetsLetter small := SnakeCase.map_digitsApart_eq_iff id
    simpa using hkeeps

/-- The digit meets a letter, so the second round and the way back both differ. -/
theorem toUpperSnakeCase_again_digit :
    let name := "order2item-No3"
    SnakeCase.Ascii name.toList ∧ SnakeCase.DigitMeetsLetter (toSnakeCase name).toList ∧
      toUpperSnakeCase name = "ORDER2ITEM_NO3" ∧
      (toUpperSnakeCase (toUpperSnakeCase name)).toList = "ORDER2_ITEM_NO3".toList ∧
      (toSnakeCase (toUpperSnakeCase name)).toList = "order2_item_no3".toList ∧
      toSnakeCase (toUpperSnakeCase name) ≠ toSnakeCase name := by
  intro name
  have hascii : SnakeCase.Ascii name.toList := by simp [SnakeCase.Ascii, name]
  have hsmall : (toSnakeCase name).toList = "order2item_no3".toList := by cbv
  have hmeets : SnakeCase.DigitMeetsLetter (toSnakeCase name).toList := by
    rw [hsmall]
    exact ⟨"order".toList, '2', 'i', "tem_no3".toList, by decide, by decide, by decide⟩
  obtain ⟨hback, hagain, -, hsame⟩ := toUpperSnakeCase_again name hascii
  refine ⟨hascii, hmeets, by cbv, ?_, ?_, fun hkeeps => hsame.1 hkeeps hmeets⟩
  · rw [hagain, hsmall]
    decide
  · rw [hback, hsmall]
    decide

end ModelIdl
