import ModelIdl.Proofs.Schema.Soundness

/-!
# ModelIdl.Proofs.Schema.Prefixes

Parsing from left to right. A reader is *prompt* (`Reader.Prompt`) in two ways:

* **What it took, it took for what it is.** It would do the same with anything else behind, up to the one
  token it looks at.
* **What it refuses is the first offence.** It refuses as soon as it meets the offending token, whatever
  follows, and the tokens in front could have been completed.

The combinators keep readers prompt, so the parser is (`Reader.declarations_prompt`). What is missing is
completed with a few plain tokens (`Reader.fillers`), none of which could go on with a thing that is
complete already (`Reader.Settled`).
-/

namespace ModelIdl

namespace Reader

variable {σ α β : Type}

/-! ### Completions -/

/-- Tokens that complete what was left incomplete. -/
def fillers : List Token :=
  [.keyword .model, .name "x", .string "x", .symbol .openBrace, .symbol .closeBrace,
   .symbol .closeParen, .symbol .closeBracket, .symbol .closeAngle, .symbol .colon]

/-- The tokens are such fillers. -/
def Filling (c : Tokens σ) : Prop :=
  ∀ t ∈ c, t.value ∈ fillers

/-- Could the token go on with something that could as well be complete in front of it? -/
def goesOn : Token → Bool
  | .symbol .openAngle | .symbol .openBracket | .symbol .openParen | .symbol .question
  | .symbol .atSign | .symbol .semicolon | .symbol .comma | .keyword .as => true
  | _ => false

/-- What is in front of the tokens stays as it is. -/
def Settled (ts : Tokens σ) : Prop :=
  ∀ t ∈ ts.head?, goesOn t.value = false

theorem settled_nil : Settled ([] : Tokens σ) := fun _ ht => by cases ht

theorem settled_append {c more : Tokens σ} (hc : Filling c) (hmore : Settled more) :
    Settled (c ++ more) := by
  cases c with
  | nil => exact hmore
  | cons t c =>
    intro u hu
    obtain rfl : t = u := by simpa using hu
    have hfillers : ∀ t ∈ fillers, goesOn t = false := by decide
    exact hfillers _ (hc t (.head _))

theorem Settled.not_startsWith {ts : Tokens σ} (h : Settled ts) {s : Symbol}
    (hs : goesOn (.symbol s) = true) : startsWith s ts = false := by
  rw [← Bool.not_eq_true]
  intro hstarts
  obtain ⟨p, rest, rfl⟩ := startsWith_eq_true.1 hstarts
  have := h _ rfl
  rw [hs] at this
  cases this

theorem exists_cons_of_head?_eq {t : Placed σ Token} {ts rest : Tokens σ}
    (h : ts.head? = (t :: rest).head?) : ∃ rest', ts = t :: rest' := by
  cases ts with
  | nil => cases h
  | cons u ts => exact ⟨ts, by rw [Option.some.inj h]⟩

theorem startsWith_congr {s : Symbol} {ts ts' : Tokens σ} (h : ts.head? = ts'.head?) :
    startsWith s ts = startsWith s ts' := by
  cases ts with
  | nil =>
    obtain rfl : ts' = [] := by simpa using h.symm
    rfl
  | cons t ts =>
    obtain ⟨ts', rfl⟩ := exists_cons_of_head?_eq h.symm
    obtain ⟨value, place⟩ := t
    cases value <;> rfl

theorem head?_append_congr (front : Tokens σ) {more rest : Tokens σ} (h : more.head? = rest.head?) :
    (front ++ more).head? = (front ++ rest).head? := by
  cases front with
  | nil => exact h
  | cons t front => rfl

/-- If there is less behind them, the tokens in front have a first one. -/
theorem head?_append_of_lt {front rest : Tokens σ} (h : rest.length < (front ++ rest).length)
    (more : Tokens σ) : (front ++ more).head? = (front ++ rest).head? := by
  cases front with
  | nil => simp at h
  | cons t front => rfl

/-! ### Prompt readers -/

/-- The reader takes these tokens and gives this value wherever it stops behind them, or the next token
is the one that it stopped at. -/
def TakesUpTo (stop : α → Tokens σ → Prop) (read : Reader σ α) (front : Tokens σ) (a : α)
    (rest : Tokens σ) : Prop :=
  ∀ more, stop a more ∨ more.head? = rest.head? → read (front ++ more) = .ok (a, more)

/-- The reader refuses the token behind these, whatever follows it. -/
def RefusesBehind (read : Reader σ α) (front : Tokens σ) (e : Rejection σ) : Prop :=
  ∀ more, more.head? = e.remaining.head? → read (front ++ more) = .error ⟨e.expected, more⟩

/-- Some fillers behind these tokens make something that the reader takes. -/
def Completable (stop : α → Tokens σ → Prop) (read : Reader σ α) (front : Tokens σ) : Prop :=
  ∃ c a, Filling c ∧ ∀ more, stop a more → read (front ++ (c ++ more)) = .ok (a, more)

/-- On these tokens, the reader decides about each token by the tokens up to it, and refuses none without
need. When it gave a value, it stops at least in front of the tokens that `stop` says. -/
structure PromptOn (stop : α → Tokens σ → Prop) (read : Reader σ α) (ts : Tokens σ) : Prop where
  ok : ∀ {rest : Tokens σ} {a : α}, read ts = .ok (a, rest) →
    ∃ front, ts = front ++ rest ∧ TakesUpTo stop read front a rest
  error : ∀ {e : Rejection σ}, read ts = .error e →
    ∃ front, ts = front ++ e.remaining ∧ RefusesBehind read front e ∧ Completable stop read front

/-- The reader is prompt on all tokens. -/
def Prompt (stop : α → Tokens σ → Prop) (read : Reader σ α) : Prop :=
  ∀ ts, PromptOn stop read ts

/-- A prompt reader that stops in front of tokens that settle what it took. -/
abbrev Orderly (read : Reader σ α) : Prop :=
  Prompt (fun _ => Settled) read

theorem Prompt.mono {stop stop' : α → Tokens σ → Prop} {read : Reader σ α} (h : Prompt stop read)
    (hstop : ∀ a ts, stop' a ts → stop a ts) : Prompt stop' read := by
  intro ts
  constructor
  · intro rest a hok
    obtain ⟨front, hts, htakes⟩ := (h ts).ok hok
    exact ⟨front, hts, fun more hmore => htakes more (hmore.imp_left (hstop a more))⟩
  · intro e herror
    obtain ⟨front, hts, hrefuses, c, a, hc, hcomplete⟩ := (h ts).error herror
    exact ⟨front, hts, hrefuses, c, a, hc, fun more hmore => hcomplete more (hstop a more hmore)⟩

/-- A prompt reader takes something from fillers alone. -/
theorem Prompt.completable_nil {stop : α → Tokens σ → Prop} {read : Reader σ α}
    (h : Prompt stop read) : Completable stop read [] := by
  cases hread : read [] with
  | error e =>
    obtain ⟨front, hts, -, hcomplete⟩ := (h []).error hread
    obtain ⟨rfl, -⟩ := List.append_eq_nil_iff.1 hts.symm
    exact hcomplete
  | ok r =>
    obtain ⟨a, rest⟩ := r
    obtain ⟨front, hts, htakes⟩ := (h []).ok hread
    obtain ⟨rfl, -⟩ := List.append_eq_nil_iff.1 hts.symm
    exact ⟨[], a, fun t ht => (by cases ht), fun more hmore => htakes more (.inl hmore)⟩

/-! ### One after the other -/

theorem prompt_pure {stop : α → Tokens σ → Prop} (a : α) : Prompt stop (pure a : Reader σ α) := by
  intro ts
  constructor
  · intro rest b h
    cases h
    exact ⟨[], rfl, fun more _ => rfl⟩
  · intro e h
    cases h

/-- Prompt readers one after the other are prompt, if the first stops in front of what the second takes
from fillers. -/
theorem Prompt.bind {stop : α → Tokens σ → Prop} {stop' : β → Tokens σ → Prop} {read : Reader σ α}
    {next : α → Reader σ β} (hread : Prompt stop read) (hnext : ∀ a, Prompt stop' (next a))
    (hmeet : ∀ a c more b, Filling c → stop' b more → next a (c ++ more) = .ok (b, more) →
      stop a (c ++ more)) :
    Prompt stop' (read >>= next) := by
  intro ts
  constructor
  · intro rest b h
    obtain ⟨a, mid, ha, hb⟩ := bind_eq_ok.1 h
    obtain ⟨front, rfl, htakes⟩ := (hread _).ok ha
    obtain ⟨front', rfl, htakes'⟩ := (hnext a _).ok hb
    refine ⟨front ++ front', by simp, fun more hmore => ?_⟩
    have hsecond := htakes' more hmore
    have hfirst : read (front ++ (front' ++ more)) = .ok (a, front' ++ more) := by
      refine htakes _ ?_
      -- if the second reader took nothing, what follows is what the first reader looks at
      cases front' with
      | cons t front' => exact .inr rfl
      | nil => exact hmore.imp_left fun hstop => hmeet a [] more b (fun t ht => by cases ht) hstop hsecond
    rw [List.append_assoc, bind_of_ok hfirst, hsecond]
  · intro e h
    rcases bind_eq_error.1 h with hfail | ⟨a, mid, ha, hfail⟩
    · obtain ⟨front, rfl, hrefuses, c, a, hc, hcomplete⟩ := (hread _).error hfail
      obtain ⟨c', b, hc', hcomplete'⟩ := (hnext a).completable_nil
      refine ⟨front, rfl, fun more hmore => bind_eq_error.2 (.inl (hrefuses more hmore)), c ++ c', b, ?_,
        fun more hmore => ?_⟩
      · intro t ht
        exact (List.mem_append.1 ht).elim (hc t) (hc' t)
      · have hsecond : next a (c' ++ more) = .ok (b, more) := hcomplete' more hmore
        have hfirst := hcomplete (c' ++ more) (hmeet a c' more b hc' hmore hsecond)
        rw [List.append_assoc, bind_of_ok hfirst, hsecond]
    · obtain ⟨front, rfl, htakes⟩ := (hread _).ok ha
      obtain ⟨front', rfl, hrefuses, c, b, hc, hcomplete⟩ := (hnext a _).error hfail
      refine ⟨front ++ front', by simp, fun more hmore => ?_, c, b, hc, fun more hmore => ?_⟩
      · have hfirst := htakes (front' ++ more) (.inr (head?_append_congr front' hmore))
        rw [List.append_assoc, bind_of_ok hfirst, hrefuses more hmore]
      · have hsecond := hcomplete more hmore
        have hfirst : read (front ++ (front' ++ (c ++ more))) = .ok (a, front' ++ (c ++ more)) := by
          refine htakes _ ?_
          cases front' with
          | cons t front' => exact .inr rfl
          | nil => exact .inl (hmeet a c more b hc hmore hsecond)
        rw [List.append_assoc, bind_of_ok hfirst, hsecond]

/-- Orderly readers one after the other are orderly. -/
theorem Prompt.bind_orderly {stop : α → Tokens σ → Prop} {read : Reader σ α} {next : α → Reader σ β}
    (hread : Prompt stop read) (hnext : ∀ a, Orderly (next a))
    (hstop : ∀ a ts, Settled ts → stop a ts) : Orderly (read >>= next) :=
  hread.bind hnext fun a c more _ hc hmore _ => hstop a (c ++ more) (settled_append hc hmore)

theorem Orderly.bind {read : Reader σ α} {next : α → Reader σ β} (hread : Orderly read)
    (hnext : ∀ a, Orderly (next a)) : Orderly (read >>= next) :=
  Prompt.bind_orderly hread hnext fun _ _ => id

theorem Prompt.ite {stop : α → Tokens σ → Prop} {read read' : Reader σ α} (c : Bool)
    (h : Prompt stop read) (h' : Prompt stop read') : Prompt stop (if c then read else read') := by
  cases c with
  | true => exact h
  | false => exact h'

/-! ### Repetition -/

/-- Repeating a reader that is prompt where it goes on is prompt, if the next token says whether it does. -/
theorem whileSeen_prompt {stop : α → Tokens σ → Prop} {stop' : Tokens σ → Prop} {read : Reader σ α}
    {more : Tokens σ → Bool} (hread : ∀ ts, more ts = true → PromptOn stop read ts)
    (hprogress : ∀ {ts rest a}, read ts = .ok (a, rest) → rest.length < ts.length)
    (hhead : ∀ {ts ts' : Tokens σ}, ts.head? = ts'.head? → more ts = more ts')
    (hstop : ∀ ts, stop' ts → more ts = false)
    (hmeet : ∀ a c ts, Filling c → stop' ts → stop a (c ++ ts)) :
    Prompt (fun _ => stop') (whileSeen more read) := by
  intro ts
  constructor
  · intro rest as h
    fun_induction Reader.whileSeen more read ts generalizing as with
    | case1 => cases h
    | case2 => cases h
    | case3 ts hmore a mid ha hlt bs _ hbs ih =>
      cases h
      obtain ⟨front, rfl, htakes⟩ := (hread _ hmore).ok ha
      obtain ⟨front', rfl, htakes'⟩ := ih hbs
      refine ⟨front ++ front', by simp, fun ts hts => ?_⟩
      have hfirst : read (front ++ (front' ++ ts)) = .ok (a, front' ++ ts) := by
        refine htakes _ ?_
        cases front' with
        | cons t front' => exact .inr rfl
        | nil => exact hts.imp_left (hmeet a [] ts fun t ht => by cases ht)
      have hagain : more (front ++ (front' ++ ts)) = true := by
        rw [← hmore]
        exact hhead (head?_append_of_lt hlt _)
      rw [List.append_assoc]
      exact whileSeen_of_ok hagain hfirst (hprogress hfirst) (htakes' ts hts)
    | case4 ts _ a mid ha hlt => exact absurd (hprogress ha) hlt
    | case5 ts hmore =>
      cases h
      refine ⟨[], rfl, fun ts' hts' => whileSeen_of_not_more ?_⟩
      rw [List.nil_append]
      rcases hts' with hstops | hsame
      · exact hstop ts' hstops
      · rw [hhead hsame]
        simpa using hmore
  · intro e h
    fun_induction Reader.whileSeen more read ts with
    | case1 ts hmore e' he =>
      cases h
      obtain ⟨front, rfl, hrefuses, c, a, hc, hcomplete⟩ := (hread _ hmore).error he
      refine ⟨front, rfl, fun ts hts => whileSeen_of_refusal ?_ (hrefuses ts hts), ?_⟩
      · rw [← hmore]
        exact hhead (head?_append_congr front hts)
      -- nothing is begun if nothing was taken, and otherwise what was begun is completed
      · cases front with
        | nil =>
          exact ⟨[], [], fun t ht => (by cases ht), fun ts hts => whileSeen_of_not_more (hstop ts hts)⟩
        | cons t front =>
          refine ⟨c, [a], hc, fun ts hts => ?_⟩
          have hfirst := hcomplete ts (hmeet a [] ts (fun t ht => by cases ht) hts)
          have hagain : more (t :: front ++ (c ++ ts)) = true := by
            rw [← hmore]
            exact hhead rfl
          exact whileSeen_of_ok hagain hfirst (hprogress hfirst) (whileSeen_of_not_more (hstop ts hts))
    | case2 ts hmore a mid ha hlt e' he ih =>
      cases h
      obtain ⟨front, rfl, htakes⟩ := (hread _ hmore).ok ha
      obtain ⟨front', rfl, hrefuses, c, as, hc, hcomplete⟩ := ih he
      have hagain : ∀ ts, more (front ++ ts) = true := by
        intro ts
        rw [← hmore]
        exact hhead (head?_append_of_lt hlt ts)
      refine ⟨front ++ front', by simp, fun ts hts => ?_, c, a :: as, hc, fun ts hts => ?_⟩
      · have hfirst := htakes (front' ++ ts) (.inr (head?_append_congr front' hts))
        rw [List.append_assoc]
        exact whileSeen_of_error (hagain _) hfirst (hprogress hfirst) (hrefuses ts hts)
      · have hfirst : read (front ++ (front' ++ (c ++ ts))) = .ok (a, front' ++ (c ++ ts)) := by
          refine htakes _ ?_
          cases front' with
          | cons t front' => exact .inr rfl
          | nil => exact .inl (hmeet a c ts hc hts)
        rw [List.append_assoc]
        exact whileSeen_of_ok (hagain _) hfirst (hprogress hfirst) (hcomplete ts hts)
    | case3 => cases h
    | case4 => cases h
    | case5 => cases h

/-- A list of things that settled tokens end is ended by settled tokens, among which there is no comma. -/
theorem Prompt.commaSeparated {stop : α → Tokens σ → Prop} {read : Reader σ α}
    (hread : Prompt stop read) (hstop : ∀ a ts, Settled ts → stop a ts) :
    Orderly (commaSeparated read) := by
  intro ts
  constructor
  · intro rest as h
    fun_induction Reader.commaSeparated read ts generalizing as with
    | case1 => cases h
    | case2 => cases h
    | case3 ts a mid ha hcomma bs _ hbs ih =>
      cases h
      obtain ⟨front, rfl, htakes⟩ := (hread _).ok ha
      obtain ⟨p, behind, rfl⟩ := startsWith_eq_true.1 hcomma.1
      obtain ⟨front', hbehind, htakes'⟩ := ih hbs
      obtain rfl : behind = front' ++ rest := hbehind
      refine ⟨front ++ ⟨.symbol .comma, p⟩ :: front', by simp, fun ts hts => ?_⟩
      have hfirst := htakes (⟨.symbol .comma, p⟩ :: (front' ++ ts)) (.inr rfl)
      rw [List.append_assoc, List.cons_append, commaSeparated_of_comma hfirst, htakes' ts hts]
    | case4 ts a mid ha hcomma =>
      cases h
      obtain ⟨front, rfl, htakes⟩ := (hread _).ok ha
      refine ⟨front, rfl, fun ts hts => ?_⟩
      have hlast : startsWith .comma rest = false := by
        rw [← Bool.not_eq_true]
        intro hstarts
        obtain ⟨p, behind, rfl⟩ := startsWith_eq_true.1 hstarts
        refine hcomma ⟨hstarts, ?_⟩
        simp only [List.tail_cons, List.length_append, List.length_cons]
        omega
      refine commaSeparated_of_last (htakes ts (hts.imp_left (hstop a ts))) ?_
      rcases hts with hsettled | hhead
      · exact hsettled.not_startsWith rfl
      · rw [startsWith_congr hhead, hlast]
  · intro e h
    fun_induction Reader.commaSeparated read ts with
    | case1 ts e' he =>
      cases h
      obtain ⟨front, rfl, hrefuses, c, a, hc, hcomplete⟩ := (hread _).error he
      refine ⟨front, rfl, fun ts hts => commaSeparated_of_refusal (hrefuses ts hts), c, [a], hc,
        fun ts hts => ?_⟩
      exact commaSeparated_of_last (hcomplete ts (hstop a ts hts)) (hts.not_startsWith rfl)
    | case2 ts a mid ha hcomma e' he ih =>
      cases h
      obtain ⟨front, rfl, htakes⟩ := (hread _).ok ha
      obtain ⟨p, behind, rfl⟩ := startsWith_eq_true.1 hcomma.1
      obtain ⟨front', hbehind, hrefuses, c, as, hc, hcomplete⟩ := ih he
      obtain rfl : behind = front' ++ e.remaining := hbehind
      refine ⟨front ++ ⟨.symbol .comma, p⟩ :: front', by simp, fun ts hts => ?_, c, a :: as, hc,
        fun ts hts => ?_⟩
      · have hfirst := htakes (⟨.symbol .comma, p⟩ :: (front' ++ ts)) (.inr rfl)
        rw [List.append_assoc, List.cons_append, commaSeparated_of_comma hfirst, hrefuses ts hts]
      · have hfirst := htakes (⟨.symbol .comma, p⟩ :: (front' ++ (c ++ ts))) (.inr rfl)
        rw [List.append_assoc, List.cons_append, commaSeparated_of_comma hfirst, hcomplete ts hts]
    | case3 => cases h
    | case4 => cases h

/-! ### Single tokens -/

/-- A symbol that may be missing is missing if another token follows. -/
theorem takes_prompt (s : Symbol) :
    Prompt (fun taken ts => taken = true ∨ startsWith s ts = false) (takes (σ := σ) s) := by
  intro ts
  constructor
  · intro rest taken h
    rcases takes_eq_ok.1 h with ⟨rfl, p, rfl⟩ | ⟨rfl, rfl, hnot⟩
    · exact ⟨[⟨.symbol s, p⟩], rfl, fun more _ => takes_eq_ok.2 (.inl ⟨rfl, p, rfl⟩)⟩
    · refine ⟨[], rfl, fun more hmore => takes_of_not_startsWith ?_⟩
      rw [List.nil_append]
      rcases hmore with hstop | hhead
      · simpa using hstop
      · rw [startsWith_congr hhead, hnot]
  · intro e h
    simp only [takes] at h
    split at h <;> cases h

theorem takes_orderly {s : Symbol} (hs : goesOn (.symbol s) = true) : Orderly (takes (σ := σ) s) :=
  (takes_prompt s).mono fun _ _ hsettled => .inr (hsettled.not_startsWith hs)

/-- A token that means something is taken at once, and one that does not is refused at once. -/
theorem tokenThat_orderly [Inhabited σ] {meaning : Token → Option α} {expected : Expectation}
    (hfiller : ∃ t ∈ fillers, ∃ a, meaning t = some a) :
    Orderly (tokenThat (σ := σ) meaning expected) := by
  intro ts
  constructor
  · intro rest a h
    obtain ⟨t, ht, rfl⟩ := tokenThat_eq_ok.1 h
    exact ⟨[⟨t, a.place⟩], rfl, fun more _ => tokenThat_eq_ok.2 ⟨t, ht, rfl⟩⟩
  · intro e h
    obtain ⟨t, hmem, a, ha⟩ := hfiller
    have hcomplete : Completable (fun _ => Settled) (tokenThat (σ := σ) meaning expected) [] := by
      refine ⟨[⟨t, default⟩], ⟨a, default⟩, ?_, fun more _ => tokenThat_eq_ok.2 ⟨t, ha, rfl⟩⟩
      intro u hu
      rwa [List.mem_singleton.1 hu]
    obtain ⟨rfl, hnone⟩ := tokenThat_eq_error.1 h
    refine ⟨[], rfl, fun more hmore => tokenThat_eq_error.2 ⟨rfl, ?_⟩, hcomplete⟩
    rwa [List.nil_append, hmore]

theorem symbol_orderly [Inhabited σ] {s : Symbol} (expected : Expectation) (hs : .symbol s ∈ fillers) :
    Orderly (symbol (σ := σ) s expected) :=
  (tokenThat_orderly ⟨.symbol s, hs, (), by simp⟩ : Orderly (tokenThat _ expected)).bind fun found =>
    prompt_pure found.place

theorem name_orderly [Inhabited σ] (expected : Expectation) : Orderly (name (σ := σ) expected) :=
  tokenThat_orderly ⟨.name "x", by decide, "x", rfl⟩

/-! ### Behind a first token -/

/-- A reader that takes a first token and goes on as a prompt reader is prompt there. -/
theorem PromptOn.cons {stop : α → Tokens σ → Prop} {read inner : Reader σ α} {t : Placed σ Token}
    {ts : Tokens σ} (h : PromptOn stop inner ts) (hread : ∀ ts, read (t :: ts) = inner ts) :
    PromptOn stop read (t :: ts) := by
  constructor
  · intro rest a hok
    rw [hread] at hok
    obtain ⟨front, rfl, htakes⟩ := h.ok hok
    exact ⟨t :: front, rfl, fun more hmore => by rw [List.cons_append, hread, htakes more hmore]⟩
  · intro e herror
    rw [hread] at herror
    obtain ⟨front, rfl, hrefuses, c, a, hc, hcomplete⟩ := h.error herror
    refine ⟨t :: front, rfl, fun more hmore => ?_, c, a, hc, fun more hmore => ?_⟩
    · rw [List.cons_append, hread, hrefuses more hmore]
    · rw [List.cons_append, hread, hcomplete more hmore]

/-- A reader that takes nothing here, nor in front of other tokens that it should stop at, is prompt
here. -/
theorem PromptOn.nothing {stop : α → Tokens σ → Prop} {read : Reader σ α} {ts : Tokens σ} {a : α}
    (h : ∀ more, stop a more ∨ more.head? = ts.head? → read more = .ok (a, more)) :
    PromptOn stop read ts := by
  have hts := h ts (.inr rfl)
  constructor
  · intro rest b hok
    rw [hts] at hok
    cases hok
    exact ⟨[], rfl, h⟩
  · intro e herror
    rw [hts] at herror
    cases herror

/-! ### Annotations and types -/

theorem literal_orderly [Inhabited σ] : Orderly (literal (σ := σ)) := by
  have hfound : Orderly (tokenThat (σ := σ) literalOf? .literal) :=
    tokenThat_orderly ⟨.name "x", by decide, .name "x", rfl⟩
  exact hfound.bind fun found => prompt_pure found.value

theorem arguments_orderly [Inhabited σ] : Orderly (arguments (σ := σ)) := by
  refine (takes_orderly rfl).bind fun opened => .ite opened ?_ (prompt_pure [])
  refine (takes_prompt .closeParen).bind (fun closed => .ite closed (prompt_pure []) ?_) ?_
  · refine (literal_orderly.commaSeparated fun _ _ => id).bind fun values => ?_
    exact (symbol_orderly .closeParen (by decide)).bind fun _ => prompt_pure values
  · intro closed c more values hc hmore hread
    cases closed with
    | true => exact .inl rfl
    -- literals were read, so no parenthesis closes in front of them
    | false =>
      right
      rw [← Bool.not_eq_true]
      intro hclose
      obtain ⟨p, rest, heq⟩ := startsWith_eq_true.1 hclose
      rw [heq] at hread
      obtain ⟨_, _, hliterals, -⟩ := bind_eq_ok.1 hread
      rw [commaSeparated_of_refusal (e := ⟨.literal, ⟨.symbol .closeParen, p⟩ :: rest⟩) rfl] at hliterals
      cases hliterals

theorem annot_promptOn [Inhabited σ] {ts : Tokens σ} (h : startsWith .atSign ts = true) :
    PromptOn (fun _ => Settled) annot ts := by
  obtain ⟨p, rest, rfl⟩ := startsWith_eq_true.1 h
  have hinner : Orderly (do
      let name ← name (σ := σ) .annotationName
      let values ← arguments
      return (⟨name.value, values, p⟩ : Annot σ)) :=
    (name_orderly .annotationName).bind fun name => arguments_orderly.bind fun values => prompt_pure _
  exact (hinner rest).cons fun _ => rfl

theorem annotations_orderly [Inhabited σ] : Orderly (annotations (σ := σ)) := by
  refine whileSeen_prompt (fun ts => annot_promptOn) annot_progress startsWith_congr ?_ ?_
  · intro ts hts
    exact hts.not_startsWith rfl
  · intro _ c ts hc hts
    exact settled_append hc hts

theorem arrayMark_orderly [Inhabited σ] : Orderly (arrayMark (σ := σ)) := by
  refine (takes_orderly rfl).bind fun opened => .ite opened ?_ (prompt_pure false)
  exact (symbol_orderly .closeBracket (by decide)).bind fun _ => prompt_pure true

/-- Type arguments are read promptly if they are behind the bracket that opens them. -/
theorem typeArguments_orderly {inBrackets : Reader σ (List (TypeRef σ))}
    (h : ∀ ts, startsWith .openAngle ts = true →
      PromptOn (fun _ => Settled) (typeArguments inBrackets) ts) :
    Orderly (typeArguments inBrackets) := by
  intro ts
  cases hopen : startsWith .openAngle ts with
  | true => exact h ts hopen
  | false =>
    refine .nothing fun more hmore => typeArguments_of_not_startsWith inBrackets ?_
    rcases hmore with hsettled | hhead
    · exact hsettled.not_startsWith rfl
    · rw [startsWith_congr hhead, hopen]

theorem typeWith_orderly [Inhabited σ] {inBrackets : Reader σ (List (TypeRef σ))}
    (h : Orderly (typeArguments inBrackets)) : Orderly (typeWith inBrackets) :=
  (name_orderly .type).bind fun _ => h.bind fun _ => arrayMark_orderly.bind fun _ =>
    (takes_orderly rfl).bind fun _ => prompt_pure _

/-- Where no bracket may open, a type is complete without it. -/
theorem reject_orderly :
    Orderly (typeArguments (reject (σ := σ) (α := List (TypeRef σ)) .shallowerType)) := by
  refine typeArguments_orderly fun ts hopen => ?_
  obtain ⟨p, rest, rfl⟩ := startsWith_eq_true.1 hopen
  constructor
  · intro rest a hok
    cases hok
  · intro e herror
    cases herror
    refine ⟨[], rfl, fun more hmore => ?_, [], [], fun t ht => (by cases ht), fun more hmore => ?_⟩
    · have hopen' : startsWith .openAngle more = true := by rw [startsWith_congr hmore]; rfl
      obtain ⟨q, rest', rfl⟩ := startsWith_eq_true.1 hopen'
      rfl
    · exact typeArguments_of_not_startsWith _ (hmore.not_startsWith rfl)

theorem listed_orderly [Inhabited σ] {read : Reader σ (TypeRef σ)} (h : Orderly read) :
    Orderly (typeArguments do
      let _ ← takes .openAngle
      let types ← commaSeparated read
      let _ ← symbol .closeAngle .closeAngle
      return types) := by
  refine typeArguments_orderly fun ts hopen => ?_
  obtain ⟨p, rest, rfl⟩ := startsWith_eq_true.1 hopen
  have hinner : Orderly (do
      let types ← commaSeparated read
      let _ ← symbol .closeAngle .closeAngle
      return types) :=
    (h.commaSeparated fun _ _ => id).bind fun types =>
      (symbol_orderly .closeAngle (by decide)).bind fun _ => prompt_pure types
  exact (hinner rest).cons fun _ => rfl

theorem type_orderly [Inhabited σ] (levels : Nat) : Orderly (type (σ := σ) levels) := by
  induction levels with
  | zero => exact typeWith_orderly reject_orderly
  | succ levels ih => exact typeWith_orderly (listed_orderly ih)

/-! ### Fields and declarations -/

theorem separator_orderly : Orderly (separator (σ := σ)) := by
  refine (takes_orderly rfl).bind fun divided => .ite divided (prompt_pure ()) ?_
  exact (takes_orderly rfl).bind fun _ => prompt_pure ()

theorem field_orderly [Inhabited σ] : Orderly (field (σ := σ)) :=
  annotations_orderly.bind fun _ => (name_orderly .fieldName).bind fun _ =>
    (symbol_orderly .colon (by decide)).bind fun _ => (type_orderly maxTypeDepth).bind fun _ =>
      annotations_orderly.bind fun _ => separator_orderly.bind fun _ => prompt_pure _

theorem nextField_of_field {ts rest : Tokens σ} {f : Field σ} (h : field ts = .ok (f, rest)) :
    nextField ts = .ok (f, rest) := by
  cases ts with
  | cons t ts => exact h
  | nil =>
    obtain ⟨w, separated, hw, ⟨-⟩, -⟩ := field_sound h
    simp at hw

theorem nextField_orderly [Inhabited σ] : Orderly (nextField (σ := σ)) := by
  intro ts
  cases ts with
  | nil =>
    constructor
    · intro rest f h
      cases h
    · intro e h
      cases h
      obtain ⟨c, f, hc, hcomplete⟩ := (field_orderly (σ := σ)).completable_nil
      refine ⟨[], rfl, fun more hmore => ?_, c, f, hc, fun more hmore => ?_⟩
      · obtain rfl : more = [] := by simpa using hmore
        rfl
      · exact nextField_of_field (hcomplete more hmore)
  | cons t ts =>
    constructor
    · intro rest f h
      obtain ⟨front, hts, htakes⟩ := (field_orderly _).ok h
      exact ⟨front, hts, fun more hmore => nextField_of_field (htakes more hmore)⟩
    · intro e h
      obtain ⟨front, hts, hrefuses, c, f, hc, hcomplete⟩ := (field_orderly _).error h
      refine ⟨front, hts, fun more hmore => ?_, c, f, hc, fun more hmore => ?_⟩
      · have hfront := hrefuses more hmore
        have hhead := head?_append_congr front hmore
        rw [← hts] at hhead
        obtain ⟨us, hus⟩ := exists_cons_of_head?_eq hhead
        rw [hus] at hfront ⊢
        exact hfront
      · exact nextField_of_field (hcomplete more hmore)

theorem fields_orderly [Inhabited σ] : Orderly (fields (σ := σ)) := by
  have hloop : Prompt (fun _ ts => startsWith .closeBrace ts = true)
      (whileSeen (fun ts => !startsWith .closeBrace ts) (nextField (σ := σ))) := by
    refine whileSeen_prompt (fun ts _ => nextField_orderly ts) nextField_progress ?_ ?_ ?_
    · intro ts ts' hhead
      rw [startsWith_congr hhead]
    · intro ts hts
      rw [hts]
      rfl
    · intro _ c ts hc hts
      refine settled_append hc ?_
      obtain ⟨p, rest, rfl⟩ := startsWith_eq_true.1 hts
      intro t ht
      obtain rfl : _ = t := by simpa using ht
      rfl
  refine hloop.bind (fun fs => (symbol_orderly .fieldOrCloseBrace (by decide)).bind fun _ =>
    prompt_pure fs) ?_
  intro fs c more b _ _ hclose
  obtain ⟨p, rest, hp, -⟩ := bind_eq_ok.1 hclose
  rw [symbol_eq_ok.1 hp]
  rfl

theorem logicalNameExpected_congr {ts ts' : Tokens σ} (h : ts.head? = ts'.head?) :
    logicalNameExpected ts = logicalNameExpected ts' := by
  cases ts with
  | nil =>
    obtain rfl : ts' = [] := by simpa using h.symm
    rfl
  | cons t ts =>
    obtain ⟨ts', rfl⟩ := exists_cons_of_head?_eq h.symm
    obtain ⟨value, place⟩ := t
    cases value <;> rfl

theorem logicalName_orderly [Inhabited σ] : Orderly (logicalName (σ := σ)) := by
  have hcomplete : Completable (fun _ => Settled) (logicalName (σ := σ)) [] :=
    ⟨[⟨.string "x", default⟩], "x", by simp [Filling, fillers], fun more _ => logicalName_eq _⟩
  intro ts
  constructor
  · intro rest s h
    obtain ⟨hne, p, rfl⟩ := logicalName_eq_ok h
    refine ⟨[⟨.string s, p⟩], rfl, fun more _ => ?_⟩
    rw [List.singleton_append, logicalName_eq]
    simp [logicalNameOf?, hne]
  · intro e h
    obtain ⟨rfl, hnone⟩ := logicalName_eq_error.1 h
    refine ⟨[], rfl, fun more hmore => logicalName_eq_error.2 ⟨?_, ?_⟩, hcomplete⟩
    · rw [List.nil_append, logicalNameExpected_congr hmore]
    · rwa [List.nil_append, hmore]

theorem nameClause_orderly [Inhabited σ] (otherwise : String) :
    Orderly (nameClause (σ := σ) otherwise) := by
  intro ts
  by_cases has : ∃ p rest, ts = ⟨.keyword .as, p⟩ :: rest
  · obtain ⟨p, rest, rfl⟩ := has
    exact (logicalName_orderly rest).cons fun _ => rfl
  · refine .nothing fun more hmore => nameClause_of_not_as otherwise ?_
    intro hclause
    obtain ⟨p, rest, rfl⟩ := hclause
    rcases hmore with hsettled | hhead
    · cases hsettled _ rfl
    · exact has ⟨p, exists_cons_of_head?_eq hhead.symm⟩

theorem declaration_orderly [Inhabited σ] : Orderly (declaration (σ := σ)) := by
  refine annotations_orderly.bind fun front => ?_
  refine (tokenThat_orderly ⟨.keyword .model, by decide, .model, rfl⟩ :
    Orderly (tokenThat kindOf? _)).bind fun kind => ?_
  exact (name_orderly .declarationName).bind fun name => (nameClause_orderly name.value).bind fun _ =>
    (symbol_orderly .openBrace (by decide)).bind fun _ => fields_orderly.bind fun _ => prompt_pure _

/-- The parser is prompt. It takes all tokens, so it stops at the end only. -/
theorem declarations_prompt [Inhabited σ] :
    Prompt (fun _ ts => ts = []) (declarations (σ := σ)) := by
  refine whileSeen_prompt (fun ts _ => declaration_orderly ts) declaration_progress ?_ ?_ ?_
  · intro ts ts' hhead
    cases ts <;> cases ts' <;> first | rfl | cases hhead
  · intro ts hts
    subst hts
    rfl
  · intro _ c ts hc hts
    subst hts
    exact settled_append hc settled_nil

end Reader

end ModelIdl
