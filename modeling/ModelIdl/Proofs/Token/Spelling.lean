import ModelIdl.Token.Scan

/-!
# ModelIdl.Proofs.Token.Spelling

How tokens are spelled, apart from how they are scanned: `Spells` relates a lexeme to the token that it
stands for, and `Token.EndsAt` says that the text behind a lexeme does not go on with it. A scan finds
a token exactly if the text is a spelling of the token and a text behind that does not go on with it
(`token_eq_ok_iff`). A line feed goes on with nothing, so a scan does not look past one.
-/

namespace ModelIdl

/-! ### Characters -/

/-- No alphabetic character comes before the letter A. -/
theorem isAlphabetic_eq_false_of_lt {c : Char} (h : c.toNat < 0x41) : Text.isAlphabetic c = false := by
  unfold Text.isAlphabetic Text.alphabeticRanges Text.covers
  rw [if_pos h]

theorem toNat_of_isDigit {c : Char} (h : c.isDigit = true) : 48 ≤ c.toNat ∧ c.toNat ≤ 57 := by
  simp only [Char.isDigit, Bool.and_eq_true, decide_eq_true_eq, ge_iff_le, UInt32.le_iff_toNat_le] at h
  exact h

/-- What tells two characters apart makes them different. -/
theorem ne_of_holds {p : Char → Bool} {c d : Char} (hc : p c = true) (hd : p d = false) : c ≠ d := by
  intro h
  rw [h, hd] at hc
  cases hc

theorem eq_char_of_ofChar? {c : Char} {s : Symbol} (h : Symbol.ofChar? c = some s) : c = s.char := by
  unfold Symbol.ofChar? at h
  split at h <;> cases h <;> rfl

theorem ofChar?_eq_none_of_isDigit {c : Char} (h : c.isDigit = true) : Symbol.ofChar? c = none := by
  rw [Option.eq_none_iff_forall_ne_some]
  intro s hs
  obtain rfl := eq_char_of_ofChar? hs
  cases s <;> exact absurd h (by decide)

theorem ofChar?_eq_none_of_startsName {c : Char} (h : Scan.startsName c = true) :
    Symbol.ofChar? c = none := by
  rw [Option.eq_none_iff_forall_ne_some]
  intro s hs
  obtain rfl := eq_char_of_ofChar? hs
  cases s <;> exact absurd h (by decide)

theorem isDigit_eq_false_of_startsName {c : Char} (h : Scan.startsName c = true) :
    c.isDigit = false := by
  rw [← Bool.not_eq_true]
  intro hdigit
  have hrange := toNat_of_isDigit hdigit
  have halpha := isAlphabetic_eq_false_of_lt (c := c) (by omega)
  have hscore : c = '_' := by simpa [Scan.startsName, halpha] using h
  subst hscore
  exact absurd hrange (by decide)

/-! ### Strings -/

/-- `StringForm body s` — `body` is the text between the quotes of a string with the characters `s`. -/
inductive StringForm : List Char → List Char → Prop
  | nil : StringForm [] []
  | plain {c : Char} {cs s : List Char} (hquote : c ≠ '"') (hescape : c ≠ '\\') (hline : c ≠ '\n')
      (rest : StringForm cs s) : StringForm (c :: cs) (c :: s)
  | escape {c d : Char} {cs s : List Char} (means : Scan.unescape? c = some d)
      (rest : StringForm cs s) : StringForm ('\\' :: c :: cs) (d :: s)

theorem taking_taking {α β γ : Type} (front inner : List Char) (f : α → β) (g : β → γ)
    (scan : Scan α) :
    (scan.taking inner f).taking front g = scan.taking (front ++ inner) (g ∘ f) := by
  unfold Scan.taking
  cases scan.outcome <;> simp [Except.map]

/-- What can stand in a string is read whatever follows it. -/
theorem stringBody_append_of_stringForm {body s : List Char} (h : StringForm body s) (more : List Char) :
    Scan.stringBody (body ++ more) = (Scan.stringBody more).taking body (s ++ ·) := by
  induction h with
  | nil =>
    unfold Scan.taking
    cases houtcome : (Scan.stringBody more).outcome <;> simp [Except.map, ← houtcome]
  | @plain c cs s hquote hescape hline _ ih =>
    rw [List.cons_append, Scan.stringBody.eq_6 c _ hquote hline (fun h => absurd h hescape)
      (fun _ _ h => absurd h hescape), ih, taking_taking]
    rfl
  | @escape c d cs s means _ ih =>
    simp only [List.cons_append, Scan.stringBody, means, ih, taking_taking]
    rfl

theorem stringBody_of_stringForm {body s : List Char} (h : StringForm body s) (more : List Char) :
    Scan.stringBody (body ++ '"' :: more) = ⟨.ok s, body ++ ['"'], more⟩ := by
  rw [stringBody_append_of_stringForm h]
  simp [Scan.stringBody, Scan.taking, Except.map]

/-- The outcome of a scan with further characters in front is that of the scan, mapped. -/
theorem taking_outcome_eq_ok {α β : Type} {front : List Char} {f : α → β} {scan : Scan α} {b : β} :
    (scan.taking front f).outcome = .ok b ↔ ∃ a, scan.outcome = .ok a ∧ f a = b := by
  unfold Scan.taking
  cases scan.outcome <;> simp [Except.map]

theorem stringForm_of_stringBody {text s : List Char} (h : (Scan.stringBody text).outcome = .ok s) :
    ∃ body, (Scan.stringBody text).lexeme = body ++ ['"'] ∧ StringForm body s := by
  fun_induction Scan.stringBody text generalizing s with
  | case1 => cases h
  | case2 rest =>
    cases h
    exact ⟨[], rfl, .nil⟩
  | case3 => cases h
  | case4 => cases h
  | case5 c rest d hd ih =>
    obtain ⟨s, hs, rfl⟩ := taking_outcome_eq_ok.1 h
    obtain ⟨body, hbody, hform⟩ := ih hs
    exact ⟨'\\' :: c :: body, by simp [hbody], .escape hd hform⟩
  | case6 => cases h
  | case7 c rest hquote hline hlast hescape ih =>
    obtain ⟨s, hs, rfl⟩ := taking_outcome_eq_ok.1 h
    obtain ⟨body, hbody, hform⟩ := ih hs
    refine ⟨c :: body, by simp [hbody], .plain hquote ?_ hline hform⟩
    -- a backslash is followed by nothing or by something, and both were read above
    intro hbackslash
    subst hbackslash
    cases rest with
    | nil => exact hlast rfl rfl
    | cons d rest => exact hescape d rest rfl rfl

/-! ### Numerals -/

namespace Numeral

/-- A numeral has digits, and behind its point it has digits too. -/
structure WellFormed (n : Numeral) : Prop where
  whole_ne_nil : n.whole ≠ []
  whole_digits : ∀ c ∈ n.whole, c.isDigit = true
  fraction_ne_nil : n.fraction ≠ some []
  fraction_digits : ∀ digits ∈ n.fraction, ∀ c ∈ digits, c.isDigit = true

/-- The text of a numeral behind its sign. -/
def unsignedText (n : Numeral) : List Char :=
  n.whole ++ match n.fraction with
    | some digits => '.' :: digits
    | none => []

theorem text_eq (n : Numeral) : n.text = (if n.negative then ['-'] else []) ++ n.unsignedText := by
  obtain ⟨negative, whole, fraction⟩ := n
  cases fraction <;> simp [text, unsignedText]

/-- The text behind a numeral does not go on with it. Only a numeral without a point can go on with
one. -/
def EndsAt (n : Numeral) (more : List Char) : Prop :=
  (∀ c ∈ more.head?, c.isDigit = false) ∧
    (n.fraction = none → ∀ d rest, more = '.' :: d :: rest → d.isDigit = false)

theorem leadingDigits_append {digits more : List Char} (h : ∀ c ∈ digits, c.isDigit = true)
    (hmore : ∀ c ∈ more.head?, c.isDigit = false) :
    leadingDigits (digits ++ more) = digits ∧ behindDigits (digits ++ more) = more := by
  unfold leadingDigits behindDigits
  rw [List.takeWhile_append_of_pos h, List.dropWhile_append_of_pos h]
  cases more with
  | nil => simp
  | cons c more =>
    have hc : c.isDigit = false := hmore c rfl
    simp [hc]

theorem isDigit_of_mem_leadingDigits (text : List Char) : ∀ c ∈ leadingDigits text, c.isDigit = true :=
  List.all_eq_true.1 List.all_takeWhile

theorem isDigit_of_mem_head?_behindDigits (text : List Char) :
    ∀ c ∈ (behindDigits text).head?, c.isDigit = false := by
  intro c hc
  have h := List.head?_dropWhile_not Char.isDigit text
  rw [behindDigits, Option.mem_def] at hc
  simpa [hc] using h

/-- A well-formed numeral is read wherever the text behind it does not go on with it. -/
theorem readDigits_of_wellFormed {n : Numeral} (hn : n.WellFormed) {more : List Char}
    (hmore : n.EndsAt more) : readDigits n.negative (n.unsignedText ++ more) = (n, more) := by
  obtain ⟨negative, whole, fraction⟩ := n
  cases fraction with
  | none =>
    obtain ⟨hlead, hbehind⟩ := leadingDigits_append hn.whole_digits hmore.1
    simp only [unsignedText, List.append_nil, readDigits, hlead, hbehind]
    split
    · rename_i d rest
      simp [hmore.2 rfl d rest rfl]
    · rfl
  | some digits =>
    obtain ⟨d, digits, rfl⟩ : ∃ d ds, digits = d :: ds :=
      List.exists_cons_of_ne_nil fun h => hn.fraction_ne_nil (by rw [h])
    have hdigits := hn.fraction_digits (d :: digits) rfl
    obtain ⟨hlead, hbehind⟩ :
        leadingDigits (whole ++ '.' :: d :: (digits ++ more)) = whole ∧
          behindDigits (whole ++ '.' :: d :: (digits ++ more)) = '.' :: d :: (digits ++ more) :=
      leadingDigits_append hn.whole_digits (by simp)
    obtain ⟨hlead', hbehind'⟩ : leadingDigits (digits ++ more) = digits ∧
        behindDigits (digits ++ more) = more :=
      leadingDigits_append (fun c hc => hdigits c (.tail _ hc)) hmore.1
    simp only [unsignedText, readDigits, List.append_assoc, List.cons_append, hlead, hbehind, hlead',
      hbehind', hdigits d (.head _), if_true]

/-- What is read behind a known sign is well-formed if the text starts with a digit, and what is left
does not go on with it. -/
theorem wellFormed_readDigits (negative : Bool) {d : Char} (hd : d.isDigit = true) (rest : List Char) :
    (readDigits negative (d :: rest)).1.WellFormed ∧
      (readDigits negative (d :: rest)).1.EndsAt (readDigits negative (d :: rest)).2 := by
  have hwhole : leadingDigits (d :: rest) ≠ [] := by simp [leadingDigits, hd]
  have hdigits := isDigit_of_mem_leadingDigits (d :: rest)
  have hbehind := isDigit_of_mem_head?_behindDigits (d :: rest)
  unfold readDigits
  split
  · rename_i e more heq
    split
    · rename_i he
      refine ⟨⟨hwhole, hdigits, by simp, ?_⟩, isDigit_of_mem_head?_behindDigits more, by simp⟩
      intro digits hfraction c hc
      obtain rfl : e :: leadingDigits more = digits := by simpa using hfraction
      rcases List.mem_cons.1 hc with rfl | hc
      · exact he
      · exact isDigit_of_mem_leadingDigits more c hc
    · rename_i he
      refine ⟨⟨hwhole, hdigits, by simp, by simp⟩, heq ▸ hbehind, ?_⟩
      rintro - d' rest' ⟨⟩
      simpa using he
  · rename_i hpoint
    exact ⟨⟨hwhole, hdigits, by simp, by simp⟩, hbehind, fun _ d' rest' h => absurd h (hpoint d' rest')⟩

end Numeral

/-! ### Tokens -/

/-- The text behind a token's lexeme does not go on with it. -/
def Token.EndsAt (more : List Char) : Token → Prop
  | .integer _ => (∀ c ∈ more.head?, c.isDigit = false) ∧
      ∀ d rest, more = '.' :: d :: rest → d.isDigit = false
  | .number _ => ∀ c ∈ more.head?, c.isDigit = false
  | .name _ | .keyword _ => ∀ c ∈ more.head?, Scan.continuesName c = false
  | _ => True

theorem endsAt_of_token? {n : Numeral} {t : Token} (h : n.token? = some t) (more : List Char) :
    t.EndsAt more ↔ n.EndsAt more := by
  unfold Numeral.token? at h
  split at h
  · rename_i digits hdigits
    cases h
    simp [Token.EndsAt, Numeral.EndsAt, hdigits]
  · rename_i hnone
    obtain ⟨value, -, rfl⟩ := Option.map_eq_some_iff.1 h
    simp [Token.EndsAt, Numeral.EndsAt, hnone]

theorem endsAt_wordToken (word more : List Char) :
    (Scan.wordToken word).EndsAt more ↔ ∀ c ∈ more.head?, Scan.continuesName c = false := by
  unfold Scan.wordToken
  split <;> rfl

/-- A line feed goes on with nothing. -/
theorem endsAt_newline (t : Token) (text : List Char) : t.EndsAt ('\n' :: text) := by
  cases t <;> simp [Token.EndsAt] <;> decide

/-- A line feed behind the text does not make it go on with a token. -/
theorem endsAt_append_newline {t : Token} {more : List Char} (h : t.EndsAt more) (text : List Char) :
    t.EndsAt (more ++ '\n' :: text) := by
  cases more with
  | nil => exact endsAt_newline t text
  | cons c more =>
    cases t with
    | integer value =>
      refine ⟨h.1, ?_⟩
      intro d rest heq
      cases more with
      | nil =>
        cases heq
        decide
      | cons e more =>
        cases heq
        exact h.2 d more rfl
    | _ => exact h

/-- `Spells lexeme token` — the lexeme stands for the token. Nothing stands for the end of the input. -/
inductive Spells : List Char → Token → Prop
  | symbol (s : Symbol) : Spells [s.char] (.symbol s)
  | string {body s : List Char} (form : StringForm body s) :
      Spells ('"' :: (body ++ ['"'])) (.string (String.ofList s))
  | numeral {n : Numeral} {t : Token} (form : n.WellFormed) (value : n.token? = some t) :
      Spells n.text t
  | word {c : Char} {cs : List Char} (first : Scan.startsName c = true)
      (rest : ∀ d ∈ cs, Scan.continuesName d = true) : Spells (c :: cs) (Scan.wordToken (c :: cs))

theorem spells_keyword (k : Keyword) : Spells k.text.toList (.keyword k) := by
  have hword : Scan.wordToken k.text.toList = .keyword k := by
    simp only [Scan.wordToken, String.ofList_toList, Keyword.ofText?_eq_some_iff.2 rfl]
  have hform : ∃ c cs, k.text.toList = c :: cs ∧ Scan.startsName c = true ∧
      cs.all Scan.continuesName = true := by
    cases k <;> exact ⟨_, _, rfl, by decide⟩
  obtain ⟨c, cs, hlist, hfirst, hrest⟩ := hform
  rw [← hword, hlist]
  exact .word hfirst (List.all_eq_true.1 hrest)

theorem token_of_plain {c : Char} {rest : List Char} (hquote : c ≠ '"') (hslash : c ≠ '/')
    (hsymbol : Symbol.ofChar? c = none) : Scan.token (c :: rest) =
      if Scan.startsNumeral (c :: rest) then Scan.numeral (c :: rest)
      else if Scan.startsName c then Scan.word c rest
      else ⟨.error (.invalidCharacter c), [c], rest⟩ := by
  rw [Scan.token.eq_4 c rest hquote fun _ h => absurd h hslash, hsymbol]

theorem startsNumeral_of_startsName {c : Char} (h : Scan.startsName c = true) (rest : List Char) :
    Scan.startsNumeral (c :: rest) = false := by
  have hminus : c ≠ '-' := ne_of_holds h (by decide)
  rw [Scan.startsNumeral.eq_2 c rest fun _ _ hc => absurd hc hminus]
  exact isDigit_eq_false_of_startsName h

/-- A well-formed numeral is taken wherever the text behind it does not go on with it, also if it stands for
no token. -/
theorem token_of_wellFormed {n : Numeral} (hn : n.WellFormed) {more : List Char}
    (hmore : n.EndsAt more) : Scan.token (n.text ++ more) =
      ⟨n.token?.elim (.error .invalidNumber) .ok, n.text, more⟩ := by
  have hread := Numeral.readDigits_of_wellFormed hn hmore
  obtain ⟨d, ds, hds⟩ := List.exists_cons_of_ne_nil hn.whole_ne_nil
  have hd : d.isDigit = true := hn.whole_digits d (by simp [hds])
  obtain ⟨us, hus⟩ : ∃ us, n.unsignedText = d :: us := by simp [Numeral.unsignedText, hds]
  have hnumeral : ∀ text, Numeral.read text = (n, more) →
      Scan.numeral text = ⟨n.token?.elim (.error .invalidNumber) .ok, n.text, more⟩ := by
    intro text htext
    simp only [Scan.numeral, htext]
    cases n.token? <;> rfl
  rw [Numeral.text_eq]
  cases hsign : n.negative with
  | true =>
    rw [hus, hsign] at hread
    simp only [if_true, List.cons_append, List.nil_append, hus]
    rw [token_of_plain (by decide) (by decide) rfl, if_pos (by simpa [Scan.startsNumeral] using hd)]
    simpa [Numeral.text_eq, hsign, hus] using hnumeral ('-' :: d :: (us ++ more)) hread
  | false =>
    rw [hus, hsign] at hread
    have hminus : d ≠ '-' := ne_of_holds hd (by decide)
    have hquote : d ≠ '"' := ne_of_holds hd (by decide)
    have hslash : d ≠ '/' := ne_of_holds hd (by decide)
    simp only [Bool.false_eq_true, if_false, List.nil_append, hus, List.cons_append]
    rw [token_of_plain hquote hslash (ofChar?_eq_none_of_isDigit hd),
      if_pos (by rw [Scan.startsNumeral.eq_2 d _ fun _ _ hc => absurd hc hminus]; exact hd)]
    have hplain : Numeral.read (d :: (us ++ more)) = Numeral.readDigits false (d :: (us ++ more)) :=
      Numeral.read.eq_2 _ fun _ hc => absurd (List.cons.inj hc).1 hminus
    simpa [Numeral.text_eq, hsign, hus] using hnumeral (d :: (us ++ more)) (by rw [hplain]; exact hread)

theorem token_of_numeral {n : Numeral} (hn : n.WellFormed) {t : Token} (ht : n.token? = some t)
    {more : List Char} (hmore : t.EndsAt more) :
    Scan.token (n.text ++ more) = ⟨.ok t, n.text, more⟩ := by
  rw [token_of_wellFormed hn ((endsAt_of_token? ht more).1 hmore), ht, Option.elim_some]

theorem token_of_word {c : Char} {cs more : List Char} (hc : Scan.startsName c = true)
    (hcs : ∀ d ∈ cs, Scan.continuesName d = true)
    (hmore : ∀ d ∈ more.head?, Scan.continuesName d = false) :
    Scan.token (c :: cs ++ more) = ⟨.ok (Scan.wordToken (c :: cs)), c :: cs, more⟩ := by
  have hquote : c ≠ '"' := ne_of_holds hc (by decide)
  have hslash : c ≠ '/' := ne_of_holds hc (by decide)
  have htake : (cs ++ more).takeWhile Scan.continuesName = cs ∧
      (cs ++ more).dropWhile Scan.continuesName = more := by
    rw [List.takeWhile_append_of_pos hcs, List.dropWhile_append_of_pos hcs]
    cases more with
    | nil => simp
    | cons d more => simp [hmore d rfl]
  rw [List.cons_append, token_of_plain hquote hslash (ofChar?_eq_none_of_startsName hc),
    startsNumeral_of_startsName hc]
  simp [hc, Scan.word, htake.1, htake.2]

/-- A spelling is scanned as its token wherever the text behind it does not go on with it. -/
theorem token_of_spells {lexeme : List Char} {t : Token} (h : Spells lexeme t) {more : List Char}
    (hmore : t.EndsAt more) : Scan.token (lexeme ++ more) = ⟨.ok t, lexeme, more⟩ := by
  cases h with
  | symbol s => cases s <;> rfl
  | @string body s form =>
    have hbody := stringBody_of_stringForm form more
    simp only [List.cons_append, List.append_assoc, List.nil_append, Scan.token.eq_2, hbody]
    rfl
  | numeral form value => exact token_of_numeral form value hmore
  | word first rest => exact token_of_word first rest ((endsAt_wordToken _ more).1 hmore)

theorem spells_of_numeral {text : List Char} {t : Token} (hstarts : Scan.startsNumeral text = true)
    (h : (Scan.numeral text).outcome = .ok t) :
    Spells (Scan.numeral text).lexeme t ∧ t.EndsAt (Scan.numeral text).rest := by
  have hform : (Numeral.read text).1.WellFormed ∧
      (Numeral.read text).1.EndsAt (Numeral.read text).2 := by
    unfold Scan.startsNumeral at hstarts
    split at hstarts
    · exact Numeral.wellFormed_readDigits true hstarts _
    · rename_i c rest hsign
      have hminus : c ≠ '-' := by
        rintro rfl
        exact absurd hstarts (by decide)
      rw [Numeral.read.eq_2 _ fun _ hc => hminus (List.cons.inj hc).1]
      exact Numeral.wellFormed_readDigits false hstarts _
    · cases hstarts
  simp only [Scan.numeral] at h
  split at h
  · rename_i hvalue
    cases h
    exact ⟨.numeral hform.1 hvalue, (endsAt_of_token? hvalue _).2 hform.2⟩
  · cases h

theorem spells_of_word {c : Char} {rest : List Char} (hc : Scan.startsName c = true) {t : Token}
    (h : (Scan.word c rest).outcome = .ok t) :
    Spells (Scan.word c rest).lexeme t ∧ t.EndsAt (Scan.word c rest).rest := by
  cases h
  refine ⟨.word hc (List.all_eq_true.1 List.all_takeWhile), (endsAt_wordToken _ _).2 ?_⟩
  intro d hd
  have hbehind := List.head?_dropWhile_not Scan.continuesName rest
  rw [Scan.word, Option.mem_def] at hd
  simpa [hd] using hbehind

/-- A scan that finds a token takes a spelling of it, and what is left does not go on with it. -/
theorem spells_of_token {text : List Char} {t : Token} (h : (Scan.token text).outcome = .ok t)
    (hne : text ≠ []) :
    Spells (Scan.token text).lexeme t ∧ t.EndsAt (Scan.token text).rest := by
  fun_cases Scan.token text with
  | case1 => exact absurd rfl hne
  | case2 rest =>
    obtain ⟨s, hs, rfl⟩ := taking_outcome_eq_ok.1 h
    obtain ⟨body, hbody, hform⟩ := stringForm_of_stringBody hs
    rw [Scan.taking_lexeme, hbody]
    exact ⟨.string hform, trivial⟩
  | case3 => cases h
  | case4 c rest hquote hcomment s hs =>
    simp only [Scan.token.eq_4 c rest hquote hcomment, hs] at h
    cases h
    obtain rfl := eq_char_of_ofChar? hs
    exact ⟨.symbol s, trivial⟩
  | case5 c rest hquote hcomment hs hstarts =>
    simp only [Scan.token.eq_4 c rest hquote hcomment, hs, hstarts, if_true] at h ⊢
    exact spells_of_numeral hstarts h
  | case6 c rest hquote hcomment hs hfirst hstarts =>
    simp only [Scan.token.eq_4 c rest hquote hcomment, hs, hfirst, hstarts, if_true, if_false,
      Bool.false_eq_true] at h ⊢
    exact spells_of_word hfirst h
  | case7 c rest hquote hcomment hs hfirst hstarts =>
    simp [Scan.token.eq_4 c rest hquote hcomment, hs, hfirst, hstarts] at h

/-- A text scans as a token exactly if it is a spelling of the token and a text behind that does not go
on with it. -/
theorem token_eq_ok_iff {text lexeme rest : List Char} {t : Token} (hne : text ≠ []) :
    Scan.token text = ⟨.ok t, lexeme, rest⟩ ↔
      text = lexeme ++ rest ∧ Spells lexeme t ∧ t.EndsAt rest := by
  constructor
  · intro h
    have happend := Scan.token_append text
    have hspells : Spells (Scan.token text).lexeme t ∧ t.EndsAt (Scan.token text).rest :=
      spells_of_token (by rw [h]) hne
    rw [h] at happend hspells
    exact ⟨happend.symm, hspells⟩
  · intro h
    obtain ⟨rfl, hspells, hends⟩ := h
    exact token_of_spells hspells hends

end ModelIdl
