import ModelIdl.Token.Gap

/-!
# ModelIdl.Proofs.Token.Gaps

The language of gaps, apart from how gaps are skipped. `GapForm` says what a gap is: blank characters,
line comments and block comments. Only at the end of a source may a line comment have no line feed.
Splitting a text takes a gap from its front (`gapForm_split`), and takes all of a gap where no further
gap follows (`split_append_of_gapForm`).
-/

namespace ModelIdl

/-- `GapForm last gap` — the text is a gap. If `last` holds, it may end in a line comment without a line
feed. A block comment ends at the first closing mark behind its opening mark. -/
inductive GapForm (last : Prop) : List Char → Prop
  | nil : GapForm last []
  | blank {c : Char} {rest : List Char} (hblank : Text.isBlank c = true) (behind : GapForm last rest) :
      GapForm last (c :: rest)
  | line {inside rest : List Char} (hline : '\n' ∉ inside) (behind : GapForm last rest) :
      GapForm last ('/' :: '/' :: (inside ++ '\n' :: rest))
  | block {inside rest : List Char} (hopen : ¬ ['*', '/'] <:+: inside) (behind : GapForm last rest) :
      GapForm last ('/' :: '*' :: (inside ++ '*' :: '/' :: rest))
  | unendedLine {inside : List Char} (hline : '\n' ∉ inside) (hlast : last) :
      GapForm last ('/' :: '/' :: inside)

namespace GapForm

theorem mono {p q : Prop} {gap : List Char} (hpq : p → q) (h : GapForm p gap) : GapForm q gap := by
  induction h with
  | nil => exact .nil
  | blank hblank _ ih => exact .blank hblank ih
  | line hline _ ih => exact .line hline ih
  | block hopen _ ih => exact .block hopen ih
  | unendedLine hline hlast => exact .unendedLine hline (hpq hlast)

/-- A gap starts with a blank character or a slash, unless it is empty. -/
theorem first {last : Prop} {gap : List Char} (h : GapForm last gap) (hne : gap ≠ []) :
    ∃ c rest, gap = c :: rest ∧ (Text.isBlank c = true ∨ c = '/') := by
  cases h with
  | nil => exact absurd rfl hne
  | blank hblank _ => exact ⟨_, _, rfl, .inl hblank⟩
  | line _ _ => exact ⟨_, _, rfl, .inr rfl⟩
  | block _ _ => exact ⟨_, _, rfl, .inr rfl⟩
  | unendedLine _ _ => exact ⟨_, _, rfl, .inr rfl⟩

/-- A gap that starts with a line feed goes on as a gap. -/
theorem tail_newline {last : Prop} {gap : List Char} (h : GapForm last ('\n' :: gap)) :
    GapForm last gap := by
  cases h with
  | blank _ behind => exact behind

end GapForm

namespace Gap

/-! ### Comments -/

/-- A block comment ends at its first closing mark. -/
theorem closeComment?_eq_some_iff {text taken behind : List Char} :
    closeComment? text = some (taken, behind) ↔ ∃ inside, taken = inside ++ ['*', '/'] ∧
      text = inside ++ '*' :: '/' :: behind ∧ ¬ ['*', '/'] <:+: inside := by
  refine ⟨fun h => ?_, ?_⟩
  · fun_induction closeComment? text generalizing taken behind with
    | case1 => cases h
    | case2 rest =>
      cases h
      exact ⟨[], rfl, rfl, by simp⟩
    | case3 c rest hopen ih =>
      obtain ⟨⟨body, tail⟩, hclose, ⟨⟩⟩ := Option.map_eq_some_iff.1 h
      obtain ⟨inside, rfl, rfl, hinside⟩ := ih hclose
      refine ⟨c :: inside, rfl, rfl, ?_⟩
      -- a mark at the front would have been read as the end
      rw [List.infix_cons_iff]
      rintro (⟨more, hfront⟩ | hback)
      · obtain ⟨rfl, rfl⟩ := List.cons.inj hfront
        exact hopen _ rfl rfl
      · exact hinside hback
  · rintro ⟨inside, rfl, rfl, hinside⟩
    induction inside with
    | nil => rfl
    | cons c inside ih =>
      rw [List.infix_cons_iff, not_or] at hinside
      rw [List.cons_append, closeComment?.eq_3 c _ ?_, ih hinside.2]
      · rfl
      · rintro more rfl hslash
        cases inside with
        | nil => cases hslash
        | cons d inside =>
          obtain ⟨rfl, -⟩ := List.cons.inj hslash
          exact hinside.1 ⟨inside, rfl⟩

/-- A line comment takes all up to the first line feed, or all that there is. -/
theorem lineComment_of_not_mem {inside rest : List Char} (h : '\n' ∉ inside)
    (hrest : ∀ c ∈ rest.head?, c = '\n') : lineComment (inside ++ rest) = (inside, rest) := by
  have hall : ∀ c ∈ inside, decide (c ≠ '\n') = true := by
    intro c hc
    exact decide_eq_true fun heq => h (heq ▸ hc)
  rw [lineComment, List.takeWhile_append_of_pos hall, List.dropWhile_append_of_pos hall]
  cases rest with
  | nil => simp
  | cons c rest => simp [hrest c rfl]

theorem not_mem_lineComment (text : List Char) : '\n' ∉ (lineComment text).1 := by
  intro hmem
  have := List.all_eq_true.1 List.all_takeWhile _ hmem
  simp at this

/-- Behind a line comment there is a line feed, if there is anything. -/
theorem lineComment_behind (text : List Char) :
    (lineComment text).2 = [] ∨ ∃ rest, (lineComment text).2 = '\n' :: rest := by
  have hhead := List.head?_dropWhile_not (· ≠ '\n') text
  unfold lineComment
  cases hrest : text.dropWhile (· ≠ '\n') with
  | nil => exact .inl rfl
  | cons c rest =>
    rw [hrest] at hhead
    exact .inr ⟨rest, by simpa using hhead⟩

/-! ### Splitting -/

theorem split_blank {c : Char} (h : Text.isBlank c = true) (rest : List Char) :
    split (c :: rest) = (c :: (split rest).1, (split rest).2) := by
  have hslash : c ≠ '/' := by
    rintro rfl
    exact absurd h (by decide)
  rw [split.eq_3 c rest (fun _ hc => absurd hc hslash) (fun _ hc => absurd hc hslash), if_pos h]

theorem split_line (rest : List Char) : split ('/' :: '/' :: rest) =
    ('/' :: '/' :: (lineComment rest).1 ++ (split (lineComment rest).2).1,
      (split (lineComment rest).2).2) := by
  rw [split]

theorem split_block {rest taken behind : List Char} (h : closeComment? rest = some (taken, behind)) :
    split ('/' :: '*' :: rest) =
      ('/' :: '*' :: taken ++ (split behind).1, (split behind).2) := by
  rw [split]
  split
  · rename_i heq
    rw [h] at heq
    cases heq
    rfl
  · rename_i heq
    rw [h] at heq
    cases heq

/-- A gap is taken from the front of a text, if no gap follows it, and nothing at all if it is one that
only the end can follow. -/
theorem split_append_of_gapForm {last : Prop} {gap more : List Char} (h : GapForm last gap)
    (hmore : split more = ([], more)) (hlast : last → more = []) :
    split (gap ++ more) = (gap, more) := by
  induction h with
  | nil => exact hmore
  | @blank c rest hblank _ ih => rw [List.cons_append, split_blank hblank, ih]
  | @line inside rest hline _ ih =>
    have hcomment : lineComment (inside ++ '\n' :: (rest ++ more)) = (inside, '\n' :: (rest ++ more)) :=
      lineComment_of_not_mem hline (by simp)
    have hnewline : Text.isBlank '\n' = true := by decide
    simp only [List.cons_append, List.append_assoc, split_line, hcomment, split_blank hnewline, ih]
  | @block inside rest hopen _ ih =>
    have hclose : closeComment? (inside ++ '*' :: '/' :: (rest ++ more)) =
        some (inside ++ ['*', '/'], rest ++ more) :=
      closeComment?_eq_some_iff.2 ⟨inside, rfl, rfl, hopen⟩
    simp only [List.cons_append, List.append_assoc, split_block hclose, ih, List.nil_append]
  | @unendedLine inside hline hend =>
    obtain rfl := hlast hend
    have hcomment : lineComment (inside ++ []) = (inside, []) := lineComment_of_not_mem hline (by simp)
    rw [List.cons_append, List.cons_append, split_line, hcomment, hmore]
    simp

/-- What is taken from the front of a text is a gap. -/
theorem gapForm_split (text : List Char) : GapForm ((split text).2 = []) (split text).1 := by
  fun_induction split text with
  | case1 rest gap left hsplit ih =>
    rw [hsplit] at ih
    have hinside := not_mem_lineComment rest
    -- the line feed that ends the comment is the first character of the gap behind it
    rcases lineComment_behind rest with hend | ⟨behind, hbehind⟩
    · rw [hend, split] at hsplit
      cases hsplit
      rw [List.append_nil]
      exact .unendedLine hinside rfl
    · rw [hbehind, split_blank (by decide)] at hsplit
      cases hsplit
      exact .line hinside ih.tail_newline
  | case2 rest taken behind hclose gap left hsplit ih =>
    rw [hsplit] at ih
    obtain ⟨inside, rfl, rfl, hopen⟩ := closeComment?_eq_some_iff.1 hclose
    have hblock := GapForm.block hopen ih
    simpa only [List.cons_append, List.append_assoc, List.nil_append] using hblock
  | case3 => exact .nil
  | case4 c rest _ _ hblank gap left hsplit ih =>
    rw [hsplit] at ih
    exact .blank hblank ih
  | case5 => exact .nil
  | case6 => exact .nil

end Gap

end ModelIdl
