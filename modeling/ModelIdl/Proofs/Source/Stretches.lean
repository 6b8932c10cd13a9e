import ModelIdl.Source.Span

/-!
# ModelIdl.Proofs.Source.Stretches

What positions and stretches say of a source. A position behind some text counts its bytes and its line
feeds, and the characters of its last line (`Position.offset_line_after`, `Position.column_after`). A
stretch has a text exactly if it starts and stops between characters (`Span.slice?_eq_some_iff`). The
stretch between two positions of a source is one that `Fits` the source.
-/

namespace ModelIdl

/-! ### Bytes -/

/-- The number of bytes of a text in UTF-8. -/
def byteSize (text : List Char) : Nat :=
  (String.ofList text).utf8ByteSize

@[simp] theorem byteSize_nil : byteSize [] = 0 := rfl

@[simp] theorem byteSize_cons (c : Char) (text : List Char) :
    byteSize (c :: text) = c.utf8Size + byteSize text := by
  rw [byteSize, String.ofList_cons, String.utf8ByteSize_append, String.utf8ByteSize_singleton, byteSize]

@[simp] theorem byteSize_append (s t : List Char) : byteSize (s ++ t) = byteSize s + byteSize t := by
  rw [byteSize, String.ofList_append, String.utf8ByteSize_append, byteSize, byteSize]

theorem byteSize_toList (source : String) : byteSize source.toList = source.utf8ByteSize := by
  rw [byteSize, String.ofList_toList]

theorem byteSize_pos {text : List Char} (h : text ≠ []) : 0 < byteSize text := by
  cases text with
  | nil => exact absurd rfl h
  | cons c text =>
    have := c.utf8Size_pos
    rw [byteSize_cons]
    omega

/-! ### Positions -/

namespace Position

/-- The bytes and the line feeds of a text are what the place behind it is further on. -/
theorem offset_line_after (p : Position) (text : List Char) :
    (p.after text).offset = p.offset + byteSize text ∧
      (p.after text).line = p.line + text.count '\n' := by
  induction text generalizing p with
  | nil => simp
  | cons c text ih =>
    obtain ⟨hoffset, hline⟩ := ih (p.past c)
    rw [after_cons, hoffset, hline, byteSize_cons, List.count_cons]
    by_cases hc : c = '\n'
    · simp only [past, hc, if_true, beq_self_eq_true]
      omega
    · simp only [past, hc, if_false, beq_iff_eq]
      omega

theorem offset_after (p : Position) (text : List Char) :
    (p.after text).offset = p.offset + byteSize text :=
  (offset_line_after p text).1

/-- The offset behind a text at the front of a source is its bytes. -/
theorem offset_origin_after (text : List Char) : (origin.after text).offset = byteSize text := by
  rw [offset_after, origin, Nat.zero_add]

/-- The column behind a text counts the characters behind its last line feed. -/
theorem column_after (text : List Char) :
    (origin.after text).column = 1 + (text.reverse.takeWhile (· ≠ '\n')).length := by
  -- the last character decides, so the text is taken from its end
  suffices h : ∀ back : List Char,
      (origin.after back.reverse).column = 1 + (back.takeWhile (· ≠ '\n')).length by
    rw [← h text.reverse, List.reverse_reverse]
  intro back
  induction back with
  | nil => rfl
  | cons c back ih =>
    rw [List.reverse_cons, after_append, after_cons, after_nil, past]
    by_cases hc : c = '\n'
    · simp [hc]
    · rw [if_neg hc, List.takeWhile_cons_of_pos (by simpa using hc), List.length_cons, ih, Nat.add_assoc]

end Position

/-! ### Texts of stretches -/

namespace Span

/-- A text is cut behind so many bytes exactly if some characters at its front have so many. -/
theorem cutAt?_eq_some_iff {n : Nat} {text before behind : List Char} :
    cutAt? n text = some (before, behind) ↔ text = before ++ behind ∧ byteSize before = n := by
  constructor
  · intro h
    fun_induction cutAt? n text generalizing before with
    | case1 text =>
      cases h
      exact ⟨rfl, rfl⟩
    | case2 => cases h
    | case3 n c text _ hfits ih =>
      obtain ⟨⟨front, left⟩, hcut, ⟨⟩⟩ := Option.map_eq_some_iff.1 h
      obtain ⟨rfl, hbytes⟩ := ih hcut
      rw [byteSize_cons]
      exact ⟨rfl, by omega⟩
    | case4 => cases h
  · rintro ⟨rfl, rfl⟩
    induction before with
    | nil => simp [cutAt?]
    | cons c before ih =>
      have hpos := c.utf8Size_pos
      rw [List.cons_append, byteSize_cons, cutAt?.eq_3 _ _ _ (by omega), if_pos (by omega),
        Nat.add_sub_cancel_left, ih]
      rfl

/-- A stretch has a text exactly if it starts and stops where some characters of the source end. -/
theorem slice?_eq_some_iff {s : Span} {source inside : List Char} :
    s.slice? source = some inside ↔ ∃ before behind, source = before ++ inside ++ behind ∧
      s.start = byteSize before ∧ s.stop = byteSize (before ++ inside) := by
  unfold slice?
  constructor
  · intro h
    split at h
    · rename_i hle
      simp only [Option.bind_eq_bind, Option.bind_eq_some_iff, Prod.exists, Option.pure_def,
        Option.some.injEq] at h
      obtain ⟨before, rest, hstart, _, behind, hstop, rfl⟩ := h
      obtain ⟨rfl, hbefore⟩ := cutAt?_eq_some_iff.1 hstart
      obtain ⟨rfl, hinside⟩ := cutAt?_eq_some_iff.1 hstop
      refine ⟨before, behind, by simp, hbefore.symm, ?_⟩
      rw [byteSize_append]
      omega
    · cases h
  · rintro ⟨before, behind, rfl, hstart, hstop⟩
    rw [byteSize_append] at hstop
    have hfront : cutAt? s.start (before ++ inside ++ behind) = some (before, inside ++ behind) :=
      cutAt?_eq_some_iff.2 ⟨List.append_assoc .., hstart.symm⟩
    have hback : cutAt? (s.stop - s.start) (inside ++ behind) = some (inside, behind) :=
      cutAt?_eq_some_iff.2 ⟨rfl, by omega⟩
    rw [if_pos (by omega), hfront]
    simp [hback]

/-- The stretch between the positions in front of a text and behind it has that text. -/
theorem slice?_of_append (before inside behind : List Char) :
    ((Position.origin.after before).to (Position.origin.after (before ++ inside))).slice?
      (before ++ inside ++ behind) = some inside := by
  exact slice?_eq_some_iff.2
    ⟨before, behind, rfl, Position.offset_origin_after _, Position.offset_origin_after _⟩

/-! ### Stretches that fit -/

/-- The stretch lies in the source, from one place between characters to another. Its line is one more
than the line feeds in front of it, and its column is one more than the characters between the last of
these and it. -/
structure Fits (source : String) (s : Span) : Prop where
  start_le_stop : s.start ≤ s.stop
  stop_le : s.stop ≤ source.utf8ByteSize
  start_isValid : String.Pos.Raw.IsValid source ⟨s.start⟩
  stop_isValid : String.Pos.Raw.IsValid source ⟨s.stop⟩
  line_column : ∀ before behind : String, source = before ++ behind → before.utf8ByteSize = s.start →
    s.line = 1 + before.toList.count '\n' ∧
      s.column = 1 + (before.toList.reverse.takeWhile (· ≠ '\n')).length

theorem isValid_of_append {source : String} {before behind : List Char}
    (h : source.toList = before ++ behind) : String.Pos.Raw.IsValid source ⟨byteSize before⟩ := by
  refine String.Pos.Raw.isValid_iff_exists_append.2
    ⟨String.ofList before, String.ofList behind, ?_, rfl⟩
  rw [← String.ofList_append, ← h, String.ofList_toList]

/-- The stretch between two positions of a source fits it. -/
theorem fits_of_append {source : String} {before inside behind : List Char}
    (h : source.toList = before ++ inside ++ behind) :
    ((Position.origin.after before).to (Position.origin.after (before ++ inside))).Fits source := by
  have hoffset := Position.offset_origin_after
  constructor
  · simp only [Position.to, hoffset, byteSize_append]
    omega
  · rw [← byteSize_toList, h]
    simp only [Position.to, hoffset, byteSize_append]
    omega
  · simp only [Position.to, hoffset]
    rw [List.append_assoc] at h
    exact isValid_of_append h
  · simp only [Position.to, hoffset]
    exact isValid_of_append h
  · intro front back hsource hfront
    -- as many bytes at the front are the same characters
    have hsame : front.toList = before := by
      have hcut : cutAt? (byteSize before) source.toList = some (before, inside ++ behind) :=
        cutAt?_eq_some_iff.2 ⟨by rw [h, List.append_assoc], rfl⟩
      have hcut' : cutAt? (byteSize before) source.toList = some (front.toList, back.toList) := by
        refine cutAt?_eq_some_iff.2 ⟨by rw [hsource, String.toList_append], ?_⟩
        rw [byteSize_toList, hfront, Position.to, hoffset]
      rw [hcut'] at hcut
      exact (Prod.mk.inj (Option.some.inj hcut)).1
    rw [hsame]
    exact ⟨(Position.offset_line_after Position.origin before).2, Position.column_after before⟩

end Span

end ModelIdl
