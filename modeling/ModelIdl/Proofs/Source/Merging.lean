import ModelIdl.Proofs.Source.Stretches

/-!
# ModelIdl.Proofs.Source.Merging

Stretches put together. The merge of two stretches is the least one that covers both, so other stretches
cover it exactly if they cover both (`Span.covers_merge_iff`). Design points:

* **A range is known by what covers it.** Two stretches that the same ones cover have one range
  (`Span.eq_of_covers_iff`), so the laws of merging are those of "and".
* **Lines and columns** come with the start. Stretches of one source that start together are at one line
  and column (`Span.Fits.placedAlike`), and merging keeps to that.
-/

namespace ModelIdl.Span

variable {a b c s t : Span}

/-! ### Ranges -/

/-- The range of the second stretch lies within the range of the first. -/
def Covers (s t : Span) : Prop :=
  s.start ≤ t.start ∧ t.stop ≤ s.stop

theorem Covers.refl (s : Span) : s.Covers s := ⟨Nat.le_refl _, Nat.le_refl _⟩

theorem start_merge (a b : Span) : (a.merge b).start = min a.start b.start := by
  unfold merge
  split <;> simp only <;> omega

theorem stop_merge (a b : Span) : (a.merge b).stop = max a.stop b.stop := by
  unfold merge
  split <;> rfl

/-- The merge is covered by what covers both stretches, and by nothing else. -/
theorem covers_merge_iff : s.Covers (a.merge b) ↔ s.Covers a ∧ s.Covers b := by
  unfold Covers
  rw [start_merge, stop_merge]
  omega

/-! ### Lines and columns -/

/-- If the stretches start together, they are at one line and column. -/
def PlacedAlike (s t : Span) : Prop :=
  s.start = t.start → s.line = t.line ∧ s.column = t.column

namespace PlacedAlike

theorem refl (s : Span) : s.PlacedAlike s := fun _ => ⟨rfl, rfl⟩

theorem symm (h : s.PlacedAlike t) : t.PlacedAlike s := fun hstart =>
  ⟨(h hstart.symm).1.symm, (h hstart.symm).2.symm⟩

theorem merge (ha : s.PlacedAlike a) (hb : s.PlacedAlike b) : s.PlacedAlike (a.merge b) := by
  unfold Span.merge
  split
  · exact ha
  · exact hb

end PlacedAlike

/-- Stretches that the same ones cover are equal, if they are placed alike. -/
theorem eq_of_covers_iff (hplaced : s.PlacedAlike t) (h : ∀ u : Span, u.Covers s ↔ u.Covers t) : s = t := by
  obtain ⟨hstart, hstop⟩ := (h s).1 (.refl s)
  obtain ⟨hstart', hstop'⟩ := (h t).2 (.refl t)
  have hsame : s.start = t.start := Nat.le_antisymm hstart hstart'
  obtain ⟨hline, hcolumn⟩ := hplaced hsame
  obtain ⟨start, stop, line, column⟩ := s
  simp only at hsame hstop hstop' hline hcolumn
  rw [hsame, Nat.le_antisymm hstop' hstop, hline, hcolumn]

/-! ### Stretches of a source -/

namespace Fits

variable {source : String}

/-- In one source, stretches that start together are at one line and column. -/
theorem placedAlike (ha : a.Fits source) (hb : b.Fits source) : a.PlacedAlike b := by
  intro hstart
  obtain ⟨before, behind, hsource, hbefore⟩ := String.Pos.Raw.isValid_iff_exists_append.1 ha.start_isValid
  have hbytes : before.utf8ByteSize = a.start := by rw [← String.byteIdx_rawEndPos, ← hbefore]
  obtain ⟨hline, hcolumn⟩ := ha.line_column before behind hsource hbytes
  obtain ⟨hline', hcolumn'⟩ := hb.line_column before behind hsource (hbytes.trans hstart)
  exact ⟨hline.trans hline'.symm, hcolumn.trans hcolumn'.symm⟩

/-- The merge of two stretches of a source is a stretch of that source. -/
theorem merge (ha : a.Fits source) (hb : b.Fits source) : (a.merge b).Fits source where
  start_le_stop := by
    have := ha.start_le_stop
    rw [start_merge, stop_merge]
    omega
  stop_le := by
    rw [stop_merge]
    exact Nat.max_le.2 ⟨ha.stop_le, hb.stop_le⟩
  start_isValid := by
    unfold Span.merge
    split
    · exact ha.start_isValid
    · exact hb.start_isValid
  stop_isValid := by
    rw [stop_merge]
    rcases Nat.le_total a.stop b.stop with h | h
    · rw [Nat.max_eq_right h]
      exact hb.stop_isValid
    · rw [Nat.max_eq_left h]
      exact ha.stop_isValid
  line_column := by
    unfold Span.merge
    split
    · exact ha.line_column
    · exact hb.line_column

end Fits

/-! ### The laws of merging -/

/-- It does not matter which of two stretches comes first. -/
theorem merge_comm (hab : a.PlacedAlike b) : a.merge b = b.merge a := by
  have ha : a.PlacedAlike (b.merge a) := hab.merge (.refl a)
  have hb : b.PlacedAlike (b.merge a) := (PlacedAlike.refl b).merge hab.symm
  refine eq_of_covers_iff (ha.symm.merge hb.symm).symm fun s => ?_
  rw [covers_merge_iff, covers_merge_iff, and_comm]

/-- It does not matter which two of three stretches are put together first. -/
theorem merge_assoc (hab : a.PlacedAlike b) (hac : a.PlacedAlike c) (hbc : b.PlacedAlike c) :
    (a.merge b).merge c = a.merge (b.merge c) := by
  have ha : a.PlacedAlike (a.merge (b.merge c)) := (PlacedAlike.refl a).merge (hab.merge hac)
  have hb : b.PlacedAlike (a.merge (b.merge c)) := hab.symm.merge ((PlacedAlike.refl b).merge hbc)
  have hc : c.PlacedAlike (a.merge (b.merge c)) := hac.symm.merge (hbc.symm.merge (.refl c))
  refine eq_of_covers_iff ((ha.symm.merge hb.symm).merge hc.symm).symm fun s => ?_
  rw [covers_merge_iff, covers_merge_iff, covers_merge_iff, covers_merge_iff, and_assoc]

theorem merge_self (a : Span) : a.merge a = a := by
  refine eq_of_covers_iff ((PlacedAlike.refl a).merge (.refl a)).symm fun s => ?_
  rw [covers_merge_iff, and_self]

/-- Merging stretches of one source is associative, commutative and idempotent. The merge of two is the least
stretch that covers both: it covers them, and what covers them covers it. It starts where the earlier one
starts, at the line and column that stretches have there, and it is a stretch of the source that they
are stretches of. -/
theorem merge_least_cover (hab : a.PlacedAlike b) (hac : a.PlacedAlike c) (hbc : b.PlacedAlike c) :
    ((a.merge b).merge c = a.merge (b.merge c) ∧ a.merge b = b.merge a ∧ a.merge a = a) ∧
    ((a.merge b).Covers a ∧ (a.merge b).Covers b ∧
      ∀ s : Span, s.Covers a → s.Covers b → s.Covers (a.merge b)) ∧
    ((a.merge b).start = min a.start b.start ∧ (a.merge b).PlacedAlike a ∧ (a.merge b).PlacedAlike b) ∧
    (a.start ≤ a.stop → (a.merge b).start ≤ (a.merge b).stop) ∧
    ∀ source, a.Fits source → b.Fits source → (a.merge b).Fits source := by
  obtain ⟨hcoversa, hcoversb⟩ := covers_merge_iff.1 (Covers.refl (a.merge b))
  refine ⟨⟨merge_assoc hab hac hbc, merge_comm hab, merge_self a⟩,
    ⟨hcoversa, hcoversb, fun s ha hb => covers_merge_iff.2 ⟨ha, hb⟩⟩,
    ⟨start_merge a b, ?_, ?_⟩, fun h => ?_, fun source => Fits.merge⟩
  · exact ((PlacedAlike.refl a).merge hab).symm
  · exact (hab.symm.merge (.refl b)).symm
  · calc (a.merge b).start ≤ a.start := hcoversa.1
      _ ≤ a.stop := h
      _ ≤ (a.merge b).stop := hcoversa.2

/-- In the second line of a source: a stretch, one that overlaps it, and a shorter one that starts with it. -/
theorem merge_least_cover_overlapping :
    let source := "é\nmodel A {}"
    let a : Span := ⟨3, 10, 2, 1⟩
    let b : Span := ⟨9, 13, 2, 7⟩
    let c : Span := ⟨3, 8, 2, 1⟩
    (a.PlacedAlike b ∧ a.PlacedAlike c ∧ b.PlacedAlike c) ∧
      (b.merge c).merge a = b.merge (c.merge a) ∧ b.merge c = c.merge b ∧
      b.merge c = ⟨3, 13, 2, 1⟩ ∧ (b.merge c).Fits source := by
  intro source a b c
  have hfits (before inside behind : List Char) (h : source.toList = before ++ inside ++ behind) :
      ((Position.origin.after before).to (Position.origin.after (before ++ inside))).Fits source :=
    fits_of_append h
  have ha : a.Fits source := hfits ['é', '\n'] "model A".toList " {}".toList (by decide)
  have hb : b.Fits source := hfits "é\nmodel ".toList "A {}".toList [] (by decide)
  have hc : c.Fits source := hfits ['é', '\n'] "model".toList " A {}".toList (by decide)
  have hab := ha.placedAlike hb
  have hac := ha.placedAlike hc
  have hbc := hb.placedAlike hc
  obtain ⟨⟨hassoc, hcomm, -⟩, -, -, -, hsource⟩ := merge_least_cover hbc hab.symm hac.symm
  exact ⟨⟨hab, hac, hbc⟩, hassoc, hcomm, rfl, hsource source hb hc⟩

end ModelIdl.Span
