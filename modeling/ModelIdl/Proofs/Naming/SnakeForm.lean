import Mathlib.Data.List.Chain
import ModelIdl.Proofs.Naming.Letters

/-!
# ModelIdl.Proofs.Naming.SnakeForm

What the snake case form of a name is, apart from how it is made. Design points:

* **Letters stay, separators go.** A letter is a character that is no separator. Without its underscores the
  form is the images of all letters, and where it has underscores is said letter by letter (`IsSnakeOf`).
* **Only one text has this form** (`toSnakeCase_eq_iff`). Underscores can be left out of a text at one place
  only, so the image of each letter is found in any two texts at the same place.
* **Names go by letters.** A name is separators only, or separators, a letter, and a name behind it
  (`letters_induction`). What stands in front of a letter is decided by the last letter and the separators
  between the two.
* **Nothing is looked up in the output.** A writer that looks at what it wrote so far, and puts no underscore
  behind another, writes the same (`written_eq_snake`).
-/

namespace ModelIdl

namespace SnakeCase

/-! ### The form -/

/-- What the letters of a name become, one behind the other. -/
def images (name : List Char) : List Char :=
  (name.filter fun c => !isSeparator c).flatMap image

/-- A text without its underscores. -/
def plain (text : List Char) : List Char :=
  text.filter (· != '_')

/-- Does an underscore stand between what two letters become, the one following the other with `gap` between
them and a character behind? -/
def Joined (a : Char) (gap : List Char) (b : Char) (behind : Option Char) : Prop :=
  gap ≠ [] ∨ Text.isUppercase b ∧ (Text.isLowercase a ∨ a.isDigit) ∨
    Text.isUppercase a ∧ Text.isUppercase b ∧ behind.any Text.isLowercase

instance (a : Char) (gap : List Char) (b : Char) (behind : Option Char) :
    Decidable (Joined a gap b behind) :=
  inferInstanceAs (Decidable (_ ∨ _ ∧ (_ ∨ _) ∨ _ ∧ _ ∧ _))

/-- What stands between what two letters become. -/
def joint (a : Char) (gap : List Char) (b : Char) (behind : Option Char) : List Char :=
  if Joined a gap b behind then ['_'] else []

/-- What adjacent separators become. -/
def separated (gap : List Char) : List Char :=
  if gap = [] then [] else ['_']

/-- The text holds `middle` between the images of what is in front of it in a name and what is behind. -/
def Holds (text front middle behind : List Char) : Prop :=
  ∃ x y, text = x ++ middle ++ y ∧ plain x = images front ∧ plain y = images behind

/-- The text is the snake case form of a name. -/
structure IsSnakeOf (name text : List Char) : Prop where
  /-- Without underscores it is what all letters become, in their order. -/
  plain_eq : plain text = images name
  /-- What a letter becomes is in one piece. -/
  letters : ∀ front a behind, name = front ++ a :: behind → isSeparator a = false →
    Holds text front (image a) behind
  /-- Between what two letters become that follow each other there is their joint. -/
  joints : ∀ front a gap b behind, name = front ++ a :: (gap ++ b :: behind) → isSeparator a = false →
    (∀ c ∈ gap, isSeparator c = true) → isSeparator b = false →
    Holds text front (image a ++ joint a gap b behind.head? ++ image b) behind
  /-- It starts with an underscore exactly if the name starts with a separator. -/
  starts : text.head? = some '_' ↔ ∃ c ∈ name.head?, isSeparator c = true
  /-- It ends with an underscore exactly if the name ends with a separator. -/
  ends : text.getLast? = some '_' ↔ ∃ c ∈ name.getLast?, isSeparator c = true
  /-- No two underscores are adjacent. -/
  single : ¬ ['_', '_'] <:+: text

/-! ### Names by letters -/

theorem exists_first_letter (name : List Char) :
    (∀ c ∈ name, isSeparator c = true) ∨
      ∃ gap b behind, name = gap ++ b :: behind ∧ (∀ c ∈ gap, isSeparator c = true) ∧
        isSeparator b = false := by
  induction name with
  | nil => exact .inl (by simp)
  | cons c rest ih =>
    cases hc : isSeparator c with
    | false => exact .inr ⟨[], c, rest, rfl, by simp, hc⟩
    | true =>
      obtain h | ⟨gap, b, behind, rfl, hgap, hb⟩ := ih
      · exact .inl (List.forall_mem_cons.2 ⟨hc, h⟩)
      · exact .inr ⟨c :: gap, b, behind, rfl, List.forall_mem_cons.2 ⟨hc, hgap⟩, hb⟩

theorem exists_last_letter (name : List Char) :
    (∀ c ∈ name, isSeparator c = true) ∨
      ∃ front a gap, name = front ++ a :: gap ∧ isSeparator a = false ∧
        ∀ c ∈ gap, isSeparator c = true := by
  obtain h | ⟨gap, a, front, hname, hgap, ha⟩ := exists_first_letter name.reverse
  · exact .inl fun c hc => h c (List.mem_reverse.2 hc)
  · refine .inr ⟨front.reverse, a, gap.reverse, ?_, ha, fun c hc => hgap c (List.mem_reverse.1 hc)⟩
    rw [← List.reverse_reverse name, hname]
    simp

/-- A name is separators only, or it has a first letter and a name behind that. -/
@[elab_as_elim]
theorem letters_induction {motive : List Char → Prop}
    (separators : ∀ gap, (∀ c ∈ gap, isSeparator c = true) → motive gap)
    (letter : ∀ gap b behind, (∀ c ∈ gap, isSeparator c = true) → isSeparator b = false →
      motive behind → motive (gap ++ b :: behind))
    (name : List Char) : motive name := by
  obtain hgap | ⟨gap, b, behind, hname, hgap, hb⟩ := exists_first_letter name
  · exact separators name hgap
  · have hshorter : behind.length < name.length := by
      rw [hname, List.length_append, List.length_cons]
      omega
    rw [hname]
    exact letter gap b behind hgap hb (letters_induction separators letter behind)
termination_by name.length

/-! ### Images -/

@[simp] theorem plain_append (s t : List Char) : plain (s ++ t) = plain s ++ plain t := by
  simp [plain]

@[simp] theorem images_append (s t : List Char) : images (s ++ t) = images s ++ images t := by
  simp [images]

theorem images_cons_letter {b : Char} (hb : isSeparator b = false) (behind : List Char) :
    images (b :: behind) = image b ++ images behind := by
  simp [images, hb]

theorem images_separators {gap : List Char} (hgap : ∀ c ∈ gap, isSeparator c = true) :
    images gap = [] := by
  rw [images, List.filter_eq_nil_iff.2 (by simpa using hgap), List.flatMap_nil]

theorem ne_underscore_of_mem_image {c x : Char} (hc : isSeparator c = false) (hx : x ∈ image c) :
    x ≠ '_' := by
  rintro rfl
  have h := isSeparator_of_mem_image hc hx
  revert h
  decide

theorem plain_image {c : Char} (hc : isSeparator c = false) : plain (image c) = image c := by
  refine List.filter_eq_self.2 fun x hx => ?_
  simpa using ne_underscore_of_mem_image hc hx

/-- What a letter becomes starts with a character that is no underscore. -/
theorem exists_image_eq_cons {c : Char} (hc : isSeparator c = false) :
    ∃ x rest, image c = x :: rest ∧ x ≠ '_' := by
  obtain ⟨x, rest, h⟩ := List.exists_cons_of_ne_nil (image_ne_nil c)
  exact ⟨x, rest, h, ne_underscore_of_mem_image hc (by simp [h])⟩

/-- What a letter becomes ends with a character that is no underscore. -/
theorem exists_image_eq_append {c : Char} (hc : isSeparator c = false) :
    ∃ rest x, image c = rest ++ [x] ∧ x ≠ '_' := by
  obtain h | ⟨rest, x, h⟩ := (image c).eq_nil_or_concat
  · exact absurd h (image_ne_nil c)
  · exact ⟨rest, x, by simpa using h, ne_underscore_of_mem_image hc (by simp [h])⟩

theorem plain_joint (a : Char) (gap : List Char) (b : Char) (behind : Option Char) :
    plain (joint a gap b behind) = [] := by
  unfold joint
  split <;> rfl

/-! ### First and last characters -/

/-- Whether a name starts with a separator is decided in front of each of its letters. -/
theorem head?_append_letter {a : Char} (ha : isSeparator a = false) (front behind : List Char) :
    (∃ c ∈ (front ++ a :: behind).head?, isSeparator c = true) ↔
      ∃ c ∈ front.head?, isSeparator c = true := by
  cases front <;> simp [ha]

/-- Whether a name ends with a separator is decided behind each of its letters. -/
theorem getLast?_append_letter {a : Char} (ha : isSeparator a = false) (front behind : List Char) :
    (∃ c ∈ (front ++ a :: behind).getLast?, isSeparator c = true) ↔
      ∃ c ∈ behind.getLast?, isSeparator c = true := by
  rw [List.getLast?_append, List.getLast?_cons]
  cases behind.getLast? <;> simp [ha]

theorem head?_separators {gap : List Char} (hgap : ∀ c ∈ gap, isSeparator c = true) :
    (∃ c ∈ gap.head?, isSeparator c = true) ↔ gap ≠ [] := by
  cases gap with
  | nil => simp
  | cons g gap => simpa using hgap g (by simp)

theorem getLast?_separators {gap : List Char} (hgap : ∀ c ∈ gap, isSeparator c = true) :
    (∃ c ∈ gap.getLast?, isSeparator c = true) ↔ gap ≠ [] := by
  have hreverse : ∀ c ∈ gap.reverse, isSeparator c = true := fun c hc => hgap c (List.mem_reverse.1 hc)
  simpa using head?_separators hreverse

/-- What a letter becomes neither starts nor ends with an underscore. -/
theorem head?_append_image {a : Char} (ha : isSeparator a = false) (x y : List Char) :
    (x ++ (image a ++ y)).head? = some '_' ↔ x.head? = some '_' := by
  obtain ⟨c, rest, himage, hc⟩ := exists_image_eq_cons ha
  cases x <;> simp [himage, hc]

theorem getLast?_append_image {a : Char} (ha : isSeparator a = false) (x y : List Char) :
    (x ++ (image a ++ y)).getLast? = some '_' ↔ y.getLast? = some '_' := by
  obtain ⟨rest, c, himage, hc⟩ := exists_image_eq_append ha
  rw [List.getLast?_append, List.getLast?_append]
  cases y.getLast? <;> simp [himage, hc]

/-- Two underscores are not adjacent exactly if none is followed by another. -/
theorem not_infix_iff_isChain {text : List Char} :
    ¬ ['_', '_'] <:+: text ↔ text.IsChain fun a b => a = '_' → b ≠ '_' := by
  rw [List.isChain_iff_forall_rel_of_append_cons_cons]
  constructor
  · rintro h a b front behind rfl rfl rfl
    exact h ⟨front, behind, by simp⟩
  · rintro h ⟨front, behind, rfl⟩
    have htext : front ++ ['_', '_'] ++ behind = front ++ '_' :: '_' :: behind := by simp
    exact h htext rfl rfl

/-- Where no underscore follows another, what is nothing without underscores is one at most. -/
theorem eq_of_plain_eq_nil {text : List Char} (hsingle : ¬ ['_', '_'] <:+: text)
    (hplain : plain text = []) : text = [] ∨ text = ['_'] := by
  have hscores : ∀ c ∈ text, c = '_' := by
    simpa [plain] using hplain
  match text with
  | [] => exact .inl rfl
  | [c] => exact .inr (by rw [hscores c (by simp)])
  | c :: d :: rest =>
    obtain rfl := hscores c (by simp)
    obtain rfl := hscores d (by simp)
    exact absurd (List.prefix_append ['_', '_'] rest).isInfix hsingle

/-! ### The form of what is made -/

theorem piece_letter {c : Char} (hc : isSeparator c = false) (before behind : Option Char) :
    piece before c behind = (if before.any (beginsWord · c behind) then ['_'] else []) ++ image c :=
  if_neg (by simp [hc])

/-- Behind a separator more separators give nothing. -/
theorem pieces_separators_behind {s : Char} (hs : isSeparator s = true) {gap : List Char}
    (hgap : ∀ c ∈ gap, isSeparator c = true) : pieces (some s) gap = [] := by
  induction gap generalizing s with
  | nil => rfl
  | cons g gap ih =>
    obtain ⟨hg, hgap⟩ := List.forall_mem_cons.1 hgap
    simp [pieces_cons, piece, hs, hg, ih hg hgap]

/-- Separators give one underscore. -/
theorem pieces_separators {before : Option Char} (hbefore : before.any isSeparator = false)
    {gap : List Char} (hgap : ∀ c ∈ gap, isSeparator c = true) :
    pieces before gap = separated gap := by
  cases gap with
  | nil => rfl
  | cons g gap =>
    obtain ⟨hg, hgap⟩ := List.forall_mem_cons.1 hgap
    simp [pieces_cons, piece, hbefore, hg, pieces_separators_behind hg hgap, separated]

/-- Behind separators a letter has nothing in front of it. -/
theorem pieces_letter_behind {s : Char} (hs : isSeparator s = true) {gap : List Char}
    (hgap : ∀ c ∈ gap, isSeparator c = true) {b : Char} (hb : isSeparator b = false)
    (behind : List Char) :
    pieces (some s) (gap ++ b :: behind) = image b ++ pieces (some b) behind := by
  induction gap generalizing s with
  | nil => simp [pieces_cons, piece, hb, beginsWord_of_isSeparator hs]
  | cons g gap ih =>
    obtain ⟨hg, hgap⟩ := List.forall_mem_cons.1 hgap
    simp [pieces_cons, piece, hs, hg, ih hg hgap]

theorem pieces_letter {before : Option Char} (hbefore : before.any isSeparator = false)
    {gap : List Char} (hgap : ∀ c ∈ gap, isSeparator c = true) {b : Char} (hb : isSeparator b = false)
    (behind : List Char) :
    pieces before (gap ++ b :: behind) =
      (if gap ≠ [] ∨ before.any (beginsWord · b behind.head?) then ['_'] else []) ++ image b ++
        pieces (some b) behind := by
  cases gap with
  | nil => simp [pieces_cons, piece, hb]
  | cons g gap =>
    obtain ⟨hg, hgap⟩ := List.forall_mem_cons.1 hgap
    simp [pieces_cons, piece, hbefore, hg, pieces_letter_behind hg hgap hb]

theorem joined_iff {a : Char} {gap : List Char} {b : Char} {behind : Option Char} :
    Joined a gap b behind ↔ gap ≠ [] ∨ beginsWord a b behind = true := by
  simp only [Joined, beginsWord, Bool.and_eq_true, Bool.or_eq_true]
  tauto

/-- Behind a letter, separators and another letter give the joint of the two and what the other becomes. -/
theorem pieces_joint {a : Char} (ha : isSeparator a = false) {gap : List Char}
    (hgap : ∀ c ∈ gap, isSeparator c = true) {b : Char} (hb : isSeparator b = false)
    (behind : List Char) :
    pieces (some a) (gap ++ b :: behind) =
      joint a gap b behind.head? ++ image b ++ pieces (some b) behind := by
  rw [pieces_letter (by simpa using ha) hgap hb, joint]
  simp only [joined_iff, Option.any_some]

theorem plain_piece (before : Option Char) (c : Char) (behind : Option Char) :
    plain (piece before c behind) = if isSeparator c then [] else image c := by
  unfold piece
  split
  · split <;> rfl
  · rename_i hc
    rw [plain_append, plain_image (by simpa using hc)]
    split <;> rfl

theorem plain_pieces (before : Option Char) (name : List Char) :
    plain (pieces before name) = images name := by
  induction name generalizing before with
  | nil => rfl
  | cons c rest ih =>
    rw [pieces_cons, plain_append, ih, plain_piece]
    cases hc : isSeparator c with
    | true => simp [images, hc]
    | false => simp [images_cons_letter hc]

/-- The last character of a text, or else the one in front of it, with a further character in front. -/
theorem getLast?_cons_or (c : Char) (front : List Char) (before : Option Char) :
    (c :: front).getLast?.or before = front.getLast?.or (some c) := by
  cases h : front.getLast? <;> simp [List.getLast?_cons, h]

/-- What is made of the front of a name is the images of its letters, underscores aside. -/
theorem exists_pieces_append (before : Option Char) (front rest : List Char) :
    ∃ x, pieces before (front ++ rest) = x ++ pieces (front.getLast?.or before) rest ∧
      plain x = images front := by
  induction front generalizing before with
  | nil => exact ⟨[], rfl, rfl⟩
  | cons c front ih =>
    obtain ⟨x, hx, hplain⟩ := ih (some c)
    refine ⟨piece before c (front ++ rest).head? ++ x, ?_, ?_⟩
    · rw [List.cons_append, pieces_cons, hx, getLast?_cons_or, List.append_assoc]
    · rw [plain_append, plain_piece, hplain]
      cases hc : isSeparator c with
      | true => simp [images, hc]
      | false => simp [images_cons_letter hc]

/-- From a letter on, what is made starts with the image of the letter, but for an underscore. -/
theorem exists_snake_letter (front : List Char) {a : Char} (ha : isSeparator a = false)
    (behind : List Char) :
    ∃ x, snake (front ++ a :: behind) = x ++ image a ++ pieces (some a) behind ∧
      plain x = images front := by
  obtain ⟨x, hx, hplain⟩ := exists_pieces_append none front (a :: behind)
  refine ⟨x ++ if (front.getLast?.or none).any (beginsWord · a behind.head?) then ['_'] else [], ?_, ?_⟩
  · rw [snake, hx, pieces_cons, piece_letter ha]
    simp only [List.append_assoc]
  · rw [plain_append, hplain]
    split <;> simp [plain]

theorem head?_snake (name : List Char) :
    (snake name).head? = some '_' ↔ ∃ c ∈ name.head?, isSeparator c = true := by
  obtain hgap | ⟨gap, b, behind, rfl, hgap, hb⟩ := exists_first_letter name
  · rw [snake, pieces_separators rfl hgap, head?_separators hgap, separated]
    split <;> simp_all
  · rw [snake, pieces_letter rfl hgap hb, List.append_assoc, head?_append_image hb,
      head?_append_letter hb, head?_separators hgap]
    by_cases h : gap = [] <;> simp [h]

theorem getLast?_pieces {before : Option Char} (hbefore : before.any isSeparator = false)
    (name : List Char) :
    (pieces before name).getLast? = some '_' ↔ ∃ c ∈ name.getLast?, isSeparator c = true := by
  induction name using letters_induction generalizing before with
  | separators gap hgap =>
    rw [pieces_separators hbefore hgap, getLast?_separators hgap, separated]
    split <;> simp_all
  | letter gap b behind hgap hb ih =>
    rw [pieces_letter hbefore hgap hb, List.append_assoc, getLast?_append_image hb,
      getLast?_append_letter hb]
    exact ih (by simpa using hb)

theorem isChain_pieces {before : Option Char} (hbefore : before.any isSeparator = false)
    (name : List Char) : (pieces before name).IsChain fun a b => a = '_' → b ≠ '_' := by
  induction name using letters_induction generalizing before with
  | separators gap hgap =>
    rw [pieces_separators hbefore hgap, separated]
    split <;> simp
  | letter gap b behind hgap hb ih =>
    have hb' : (some b).any isSeparator = false := by simpa using hb
    obtain ⟨x, more, himage, hx⟩ := exists_image_eq_cons hb
    obtain ⟨front, y, himage', hy⟩ := exists_image_eq_append hb
    have hchain : (image b).IsChain fun a b => a = '_' → b ≠ '_' := by
      refine (List.pairwise_of_forall_mem_list fun x hx y _ hscore => ?_).isChain
      exact absurd hscore (ne_underscore_of_mem_image hb hx)
    rw [pieces_letter hbefore hgap hb, List.append_assoc, List.isChain_append, List.isChain_append]
    refine ⟨by split <;> simp, ⟨hchain, ih hb', ?_⟩, ?_⟩
    · simp [himage', hy]
    · simp [himage, hx]

theorem isSnakeOf_snake (name : List Char) : IsSnakeOf name (snake name) where
  plain_eq := plain_pieces none name
  letters := by
    rintro front a behind rfl ha
    obtain ⟨x, hx, hplain⟩ := exists_snake_letter front ha behind
    exact ⟨x, _, hx, hplain, plain_pieces _ _⟩
  joints := by
    rintro front a gap b behind rfl ha hgap hb
    obtain ⟨x, hx, hplain⟩ := exists_snake_letter front ha (gap ++ b :: behind)
    refine ⟨x, pieces (some b) behind, ?_, hplain, plain_pieces _ _⟩
    rw [hx, pieces_joint ha hgap hb]
    simp only [List.append_assoc]
  starts := head?_snake name
  ends := getLast?_pieces rfl name
  single := not_infix_iff_isChain.2 (isChain_pieces rfl name)

/-! ### One text for each name -/

/-- Underscores can be left out in front of a character that is none in one way only. -/
theorem eq_of_plain_eq {x y s t : List Char} {c d : Char} (h : x ++ c :: s = y ++ d :: t)
    (hc : c ≠ '_') (hd : d ≠ '_') (hplain : plain x = plain y) : x = y := by
  induction x generalizing y with
  | nil =>
    cases y with
    | nil => rfl
    | cons e y =>
      obtain ⟨rfl, -⟩ := List.cons.inj h
      simp [plain, hc] at hplain
  | cons e x ih =>
    cases y with
    | nil =>
      obtain ⟨rfl, -⟩ := List.cons.inj h
      simp [plain, hd] at hplain
    | cons f y =>
      obtain ⟨rfl, hrest⟩ := List.cons.inj h
      rw [ih hrest]
      by_cases he : e = '_' <;> simpa [plain, he] using hplain

/-- A letter stands at one place in a text. -/
theorem eq_of_image {x y s t : List Char} {a b : Char} (ha : isSeparator a = false)
    (hb : isSeparator b = false) (h : x ++ (image a ++ s) = y ++ (image b ++ t))
    (hplain : plain x = plain y) : x = y := by
  obtain ⟨c, u, hc, hcscore⟩ := exists_image_eq_cons ha
  obtain ⟨d, v, hd, hdscore⟩ := exists_image_eq_cons hb
  rw [hc, hd] at h
  exact eq_of_plain_eq h hcscore hdscore hplain

/-- Underscores in a text that are nothing exactly if some separators are, are what these become. -/
theorem eq_separated {text gap : List Char} (hsingle : ¬ ['_', '_'] <:+: text)
    (hplain : plain text = []) (hiff : text ≠ [] ↔ gap ≠ []) : text = separated gap := by
  obtain rfl | rfl := eq_of_plain_eq_nil hsingle hplain
  · have hgap : gap = [] := by simpa using hiff
    simp [separated, hgap]
  · have hgap : gap ≠ [] := by simpa using hiff
    simp [separated, hgap]

namespace IsSnakeOf

variable {name text other : List Char}

theorem single_of_infix (h : IsSnakeOf name text) {part : List Char} (hpart : part <:+: text) :
    ¬ ['_', '_'] <:+: part :=
  fun hscores => h.single (hscores.trans hpart)

/-- In front of the first letter there is what the separators there become. -/
theorem exists_first (h : IsSnakeOf name text) {gap : List Char} {a : Char} {behind : List Char}
    (hname : name = gap ++ a :: behind) (hgap : ∀ c ∈ gap, isSeparator c = true)
    (ha : isSeparator a = false) : ∃ y, text = separated gap ++ (image a ++ y) := by
  obtain ⟨x, y, htext, hplain, -⟩ := h.letters gap a behind hname ha
  rw [images_separators hgap] at hplain
  rw [List.append_assoc] at htext
  have hsingle := h.single_of_infix ⟨[], image a ++ y, htext.symm⟩
  have hstarts := h.starts
  rw [htext, head?_append_image ha, hname, head?_append_letter ha, head?_separators hgap] at hstarts
  refine ⟨y, ?_⟩
  rw [← eq_separated hsingle hplain ?_, htext]
  obtain rfl | rfl := eq_of_plain_eq_nil hsingle hplain <;> simpa using hstarts

/-- Behind the last letter there is what the separators there become. -/
theorem eq_of_last (h : IsSnakeOf name text) {front : List Char} {a : Char} {gap x y : List Char}
    (hname : name = front ++ a :: gap) (ha : isSeparator a = false)
    (hgap : ∀ c ∈ gap, isSeparator c = true) (htext : text = x ++ (image a ++ y))
    (hplain : plain x = images front) : y = separated gap := by
  have hplainy : plain y = [] := by
    have hletters := h.plain_eq
    rw [htext, hname, plain_append, plain_append, hplain, plain_image ha, images_append,
      images_cons_letter ha, images_separators hgap] at hletters
    simpa using hletters
  have hsingle : ¬ ['_', '_'] <:+: y := h.single_of_infix ⟨x ++ image a, [], by simp [htext]⟩
  have hends := h.ends
  rw [htext, getLast?_append_image ha, hname, getLast?_append_letter ha, getLast?_separators hgap]
    at hends
  refine eq_separated hsingle hplainy ?_
  obtain rfl | rfl := eq_of_plain_eq_nil hsingle hplainy <;> simpa using hends

/-- The form of separators is what they become. -/
theorem eq_of_separators (h : IsSnakeOf name text) (hname : ∀ c ∈ name, isSeparator c = true) :
    text = separated name := by
  have hplain := h.plain_eq
  rw [images_separators hname] at hplain
  have hstarts := h.starts
  rw [head?_separators hname] at hstarts
  refine eq_separated h.single hplain ?_
  obtain rfl | rfl := eq_of_plain_eq_nil h.single hplain <;> simpa using hstarts

/-- Up to a letter, and with it, two texts of one form agree. -/
theorem agree (h : IsSnakeOf name text) (h' : IsSnakeOf name other) {front : List Char} {a : Char}
    {behind : List Char} (hname : name = front ++ a :: behind) (ha : isSeparator a = false) :
    ∃ x y z, text = x ++ (image a ++ y) ∧ other = x ++ (image a ++ z) ∧ plain x = images front := by
  obtain hgap | ⟨front', a', gap, rfl, ha', hgap⟩ := exists_last_letter front
  · obtain ⟨y, hy⟩ := h.exists_first hname hgap ha
    obtain ⟨z, hz⟩ := h'.exists_first hname hgap ha
    refine ⟨separated front, y, z, hy, hz, ?_⟩
    rw [images_separators hgap, separated]
    split <;> rfl
  · have hname' : name = front' ++ a' :: (gap ++ a :: behind) := by simp [hname]
    obtain ⟨x, y, z, hx, hx', hplain⟩ := agree h h' hname' ha'
    obtain ⟨u, v, hu, hplainu, -⟩ := h.joints front' a' gap a behind hname' ha' hgap ha
    obtain ⟨u', v', hu', hplainu', -⟩ := h'.joints front' a' gap a behind hname' ha' hgap ha
    simp only [List.append_assoc] at hu hu'
    obtain rfl : x = u := eq_of_image ha' ha' (hx.symm.trans hu) (hplain.trans hplainu.symm)
    obtain rfl : x = u' := eq_of_image ha' ha' (hx'.symm.trans hu') (hplain.trans hplainu'.symm)
    refine ⟨x ++ (image a' ++ joint a' gap a behind.head?), v, v', ?_, ?_, ?_⟩
    · simp only [hu, List.append_assoc]
    · simp only [hu', List.append_assoc]
    · rw [plain_append, plain_append, plain_joint, plain_image ha', hplain, images_append,
        images_cons_letter ha', images_separators hgap]
termination_by front.length
decreasing_by simp +arith [*]

/-- A name has one snake case form only. -/
theorem unique (h : IsSnakeOf name text) (h' : IsSnakeOf name other) : text = other := by
  obtain hgap | ⟨front, a, gap, hname, ha, hgap⟩ := exists_last_letter name
  · rw [h.eq_of_separators hgap, h'.eq_of_separators hgap]
  · obtain ⟨x, y, z, hx, hx', hplain⟩ := h.agree h' hname ha
    rw [hx, hx', h.eq_of_last hname ha hgap hx hplain, h'.eq_of_last hname ha hgap hx' hplain]

end IsSnakeOf

/-! ### Writing from left to right -/

/-- A text that ends with an underscore: the text itself if it does, otherwise with one more. -/
def underscored (text : List Char) : List Char :=
  if text.getLast? = some '_' then text else text ++ ['_']

/-- A name written behind a text from left to right, with a look at what is written so far. -/
def written (text : List Char) (before : Option Char) : List Char → List Char
  | [] => text
  | c :: rest =>
    if isSeparator c then written (underscored text) (some c) rest
    else
      written ((if before.any (beginsWord · c rest.head?) then underscored text else text) ++ image c)
        (some c) rest

/-- What is written ends with an underscore exactly behind separators, so the look at it tells no more than
the last character does. -/
theorem written_eq {text : List Char} {before : Option Char}
    (h : text.getLast? = some '_' ↔ before.any isSeparator = true) (name : List Char) :
    written text before name = text ++ pieces before name := by
  induction name generalizing text before with
  | nil => simp [written, pieces]
  | cons c rest ih =>
    have hunderscored : underscored text = text ++ if before.any isSeparator then [] else ['_'] := by
      simp only [underscored, h]
      split <;> simp
    unfold written
    cases hc : isSeparator c with
    | true =>
      have hends : (underscored text).getLast? = some '_' ↔ (some c).any isSeparator = true := by
        simp only [underscored, Option.any_some, hc, iff_true]
        split <;> simp_all
      rw [if_pos rfl, ih hends, hunderscored, pieces_cons, piece, if_pos hc, List.append_assoc]
    | false =>
      have hends (front : List Char) :
          (front ++ image c).getLast? = some '_' ↔ (some c).any isSeparator = true := by
        simpa [hc] using getLast?_append_image hc front []
      have hbegins : (if before.any (beginsWord · c rest.head?) then underscored text else text) =
          text ++ if before.any (beginsWord · c rest.head?) then ['_'] else [] := by
        split
        case isTrue hword =>
          have hbefore : before.any isSeparator = false := by
            obtain _ | b := before
            · rfl
            · rw [Option.any_some, ← Bool.not_eq_true]
              intro hb
              simp [beginsWord_of_isSeparator hb] at hword
          simp [hunderscored, hbefore]
        case isFalse => simp
      rw [if_neg (by simp), ih (hends _), hbegins, pieces_cons, piece_letter hc]
      simp only [List.append_assoc]

theorem written_eq_snake (name : List Char) : written [] none name = snake name :=
  written_eq (by simp) name

end SnakeCase

theorem toList_toSnakeCase (name : String) : (toSnakeCase name).toList = SnakeCase.snake name.toList :=
  String.toList_ofList

/-- The snake case of a name is the one text of which all this holds: without its underscores it is what the
letters of the name become, in order and each in one piece; between two that follow each other there is one
underscore where separators stood or a word begins, and nothing otherwise; it starts and ends with an
underscore exactly where the name does with a separator; and no two underscores are adjacent. -/
theorem toSnakeCase_eq_iff (name text : String) :
    toSnakeCase name = text ↔ SnakeCase.IsSnakeOf name.toList text.toList := by
  have hsnake := SnakeCase.isSnakeOf_snake name.toList
  constructor
  · rintro rfl
    rwa [toList_toSnakeCase]
  · intro h
    rw [toSnakeCase, hsnake.unique h, String.ofList_toList]

end ModelIdl
