import ModelIdl.Text.Blank

/-!
# ModelIdl.Token.Gap

Gaps are what may stand between tokens: blank characters, line comments and block comments, in any
order and number. Design points:

* **Line comments** run from `//` up to, but not over, the next line feed; the line feed is blank.
* **Block comments** run from `/*` to the first `*/` behind it, so they do not nest and `/*/` is open.
* **An open block comment ends the gap in front of it.** It is no gap itself, and the text behind the
  gap then begins with it.
-/

namespace ModelIdl.Gap

/-- The inside of a block comment with its closing mark, and the text behind it; none if the comment
is never closed. -/
def closeComment? : List Char → Option (List Char × List Char)
  | [] => none
  | '*' :: '/' :: rest => some (['*', '/'], rest)
  | c :: rest => (closeComment? rest).map fun (inside, behind) => (c :: inside, behind)

/-- The inside of a line comment, and the text behind it. -/
def lineComment (text : List Char) : List Char × List Char :=
  (text.takeWhile (· ≠ '\n'), text.dropWhile (· ≠ '\n'))

/-- Nothing is lost when a block comment is closed. -/
theorem append_of_closeComment? {text inside behind : List Char}
    (h : closeComment? text = some (inside, behind)) : inside ++ behind = text := by
  fun_induction closeComment? text generalizing inside behind with
  | case1 => simp at h
  | case2 rest =>
    obtain ⟨rfl, rfl⟩ := by simpa using h
    rfl
  | case3 c rest _ ih =>
    obtain ⟨⟨body, tail⟩, hclose, hpair⟩ := Option.map_eq_some_iff.1 h
    obtain ⟨rfl, rfl⟩ := by simpa using hpair
    simp [ih hclose]

/-- A line comment takes nothing away. -/
theorem lineComment_append (text : List Char) :
    (lineComment text).1 ++ (lineComment text).2 = text :=
  List.takeWhile_append_dropWhile

/-- The text behind a closed comment is shorter. -/
theorem length_le_of_closeComment? {text inside behind : List Char}
    (h : closeComment? text = some (inside, behind)) : behind.length ≤ text.length := by
  have := congrArg List.length (append_of_closeComment? h)
  simp at this
  omega

theorem length_lineComment_le (text : List Char) :
    (lineComment text).2.length ≤ text.length := by
  have := congrArg List.length (lineComment_append text)
  simp at this
  omega

/-- Splits a text into the longest gap at its front and what is left. -/
def split (text : List Char) : List Char × List Char :=
  match text with
  | '/' :: '/' :: rest =>
    let (gap, left) := split (lineComment rest).2
    ('/' :: '/' :: (lineComment rest).1 ++ gap, left)
  | '/' :: '*' :: rest =>
    match _h : closeComment? rest with
    | some (inside, behind) =>
      let (gap, left) := split behind
      ('/' :: '*' :: inside ++ gap, left)
    | none => ([], text)
  | c :: rest =>
    if Text.isBlank c then
      let (gap, left) := split rest
      (c :: gap, left)
    else ([], text)
  | [] => ([], [])
termination_by text.length
decreasing_by
  · have := length_lineComment_le rest
    simp only [List.length_cons]
    omega
  · have := length_le_of_closeComment? ‹_›
    simp only [List.length_cons]
    omega
  · simp

/-- The gap and what is left make up the text. -/
theorem split_append (text : List Char) : (split text).1 ++ (split text).2 = text := by
  fun_induction split text with
  | case1 rest gap left hsplit ih =>
    rw [hsplit] at ih
    simp only at ih
    simp [ih, lineComment_append]
  | case2 rest inside behind hclose gap left hsplit ih =>
    rw [hsplit] at ih
    simp only at ih
    simp [ih, append_of_closeComment? hclose]
  | case3 => rfl
  | case4 c rest _ _ _ gap left hsplit ih =>
    rw [hsplit] at ih
    simp only at ih
    simp [ih]
  | case5 => rfl
  | case6 => rfl

/-- What is left is no longer than the text. -/
theorem length_split_le (text : List Char) : (split text).2.length ≤ text.length := by
  have := congrArg List.length (split_append text)
  simp at this
  omega

end ModelIdl.Gap
