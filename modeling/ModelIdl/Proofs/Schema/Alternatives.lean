import ModelIdl.Proofs.Schema.Completeness
import ModelIdl.Proofs.Schema.Prefixes

/-!
# ModelIdl.Proofs.Schema.Alternatives

What an error says was expected. The text of an expectation names its *alternatives*, and each stands for
some tokens (`Expectation.Names`). A reader *offers* them (`Reader.OffersOn`): in the place of the token
that it refuses it would take any of those that it names. Design points:

* **One token instead of another.** A reader takes the tokens in front of a refused one for what they are,
  because it is prompt, so it comes to the new token as it came to the old one. That fails only where the
  new token could go on with something complete, and such a token is named only inside of what it goes on
  with (`Reader.enclosed_offers`).
* **Up to two exceptions.** What opens annotations and what closes a body are named where a part could end
  as well as begin, so what becomes of these depends on more than one reader (`Expectation.NamesInside`).
-/

namespace ModelIdl

open Grammar

/-! ### Alternatives -/

/-- One of the things that an expectation names. -/
inductive Alternative where
  | declaration
  | field
  | literal
  /-- A name, by what it would be the name of. -/
  | name (role : String)
  /-- A string that is not empty, by what it would be. -/
  | string (role : String)
  | symbol (mark : Symbol)
  | keyword (word : Keyword)
deriving DecidableEq, Repr

namespace Alternative

/-- The alternative in words. -/
def text : Alternative → String
  | declaration => "declaration"
  | field => "field"
  | literal => "literal"
  | name role => role
  | string role => role
  | symbol mark => Token.backquoted (String.singleton mark.char)
  | keyword word => Token.backquoted word.text

/-- The token is one that the alternative could start with. -/
def Means : Alternative → Token → Prop
  | declaration, t => t = .symbol .atSign ∨ (Reader.kindOf? t).isSome
  | field, t => t = .symbol .atSign ∨ ∃ n, t = .name n
  | literal, t => (Reader.literalOf? t).isSome
  | name _, t => ∃ n, t = .name n
  | string _, t => ∃ s, s ≠ "" ∧ t = .string s
  | symbol mark, t => t = .symbol mark
  | keyword word, t => t = .keyword word

end Alternative

namespace Expectation

/-- What an expectation names. -/
def alternatives : Expectation → List Alternative
  | declaration => [.declaration]
  | declarationKeyword => [.keyword .model, .keyword .embeddable]
  | declarationName => [.name "declaration name"]
  | logicalName => [.string "logical name string"]
  | nonEmptyLogicalName => [.string "non-empty logical name"]
  | openBrace => [.symbol .openBrace]
  | fieldOrCloseBrace => [.field, .symbol .closeBrace]
  | fieldName => [.name "field name", .symbol .closeBrace]
  | colon => [.symbol .colon]
  | type => [.name "type"]
  | shallowerType => []
  | closeAngle => [.symbol .closeAngle, .symbol .comma]
  | closeBracket => [.symbol .closeBracket]
  | atSign => [.symbol .atSign]
  | annotationName => [.name "annotation name"]
  | closeParen => [.symbol .closeParen, .symbol .comma]
  | literal => [.literal]

/-- The text of an expectation is that of its alternatives, unless it is about how deep a type nests. -/
theorem text_eq_intercalate {e : Expectation} (h : e ≠ .shallowerType) :
    e.text = " or ".intercalate (e.alternatives.map Alternative.text) := by
  cases e <;> first | rfl | contradiction

/-- The expectation names the token. -/
def Names (e : Expectation) (t : Token) : Prop :=
  ∃ a ∈ e.alternatives, a.Means t

/-- The expectation names the token, and this neither opens annotations nor closes a body. -/
structure NamesInside (e : Expectation) (t : Token) : Prop where
  named : e.Names t
  at_ne : t ≠ .symbol .atSign
  brace_ne : t ≠ .symbol .closeBrace

/-- The expectations of a token that could begin or end a part of the source. -/
def atParts : List Expectation :=
  [declaration, fieldName, fieldOrCloseBrace, atSign]

end Expectation

namespace Reader

variable {σ α β : Type}

/-! ### Getting to the end -/

/-- The reader gets to the end of the tokens: it is done there, or misses more. -/
def Drains (read : Reader σ α) (ts : Tokens σ) : Prop :=
  match read ts with
  | .ok (_, rest) => rest = []
  | .error e => e.remaining = []

theorem drains_of_ok {read : Reader σ α} {ts : Tokens σ} {a : α} (h : read ts = .ok (a, [])) :
    Drains read ts := by
  rw [Drains, h]

theorem drains_of_error {read : Reader σ α} {ts : Tokens σ} {e : Rejection σ} (h : read ts = .error e)
    (hend : e.remaining = []) : Drains read ts := by
  rwa [Drains, h]

/-- A reader that drains the tokens takes them all, or refuses the end behind them. -/
theorem Drains.cases {read : Reader σ α} {ts : Tokens σ} (h : Drains read ts) :
    (∃ a, read ts = .ok (a, [])) ∨ ∃ expected, read ts = .error ⟨expected, []⟩ := by
  unfold Drains at h
  cases hread : read ts with
  | ok r =>
    obtain ⟨a, rest⟩ := r
    rw [hread] at h
    obtain rfl : rest = [] := h
    exact .inl ⟨a, rfl⟩
  | error e =>
    obtain ⟨expected, remaining⟩ := e
    rw [hread] at h
    obtain rfl : remaining = [] := h
    exact .inr ⟨expected, rfl⟩

/-- A token that is refused is not drained. -/
theorem not_drains_of_refusal {read : Reader σ α} {t : Placed σ Token} {rest : Tokens σ}
    {expected : Expectation} (h : read (t :: rest) = .error ⟨expected, t :: rest⟩) :
    ¬ Drains read (t :: rest) := by
  rw [Drains, h]
  exact List.cons_ne_nil t rest

theorem drains_takes_nil (s : Symbol) : Drains (takes (σ := σ) s) [] := rfl

/-- No tokens are drained by any prompt reader. -/
theorem Prompt.drains_nil {stop : α → Tokens σ → Prop} {read : Reader σ α} (h : Prompt stop read) :
    Drains read [] := by
  cases hread : read [] with
  | ok r =>
    obtain ⟨a, rest⟩ := r
    obtain ⟨front, hts, -⟩ := (h []).ok hread
    obtain ⟨-, rfl⟩ := List.append_eq_nil_iff.1 hts.symm
    exact drains_of_ok hread
  | error e =>
    obtain ⟨front, hts, -⟩ := (h []).error hread
    exact drains_of_error hread (List.append_eq_nil_iff.1 hts.symm).2

theorem Drains.bind {read : Reader σ α} {next : α → Reader σ β} {ts : Tokens σ} (h : Drains read ts)
    (hnext : ∀ a, Drains (next a) []) : Drains (read >>= next) ts := by
  obtain ⟨a, ha⟩ | ⟨expected, he⟩ := h.cases
  · rw [Drains, bind_of_ok ha]
    exact hnext a
  · exact drains_of_error (bind_eq_error.2 (.inl he)) rfl

theorem drains_bind_of_ok {read : Reader σ α} {next : α → Reader σ β} {ts rest : Tokens σ} {a : α}
    (hread : read ts = .ok (a, rest)) (h : Drains (next a) rest) : Drains (read >>= next) ts := by
  rwa [Drains, bind_of_ok hread]

theorem settled_singleton {t : Placed σ Token} (h : goesOn t.value = false) : Settled [t] := by
  intro u hu
  obtain rfl : t = u := by simpa using hu
  exact h

/-! ### Offers -/

/-- Behind these tokens, the reader would take any token that the expectation names. One that could go on
with something complete is named only if some of the tokens are the reader's. -/
def OffersBehind (read : Reader σ α) (front : Tokens σ) (expected : Expectation) : Prop :=
  ∀ t : Placed σ Token, expected.NamesInside t.value →
    (goesOn t.value = true → front ≠ []) ∧ Drains read (front ++ [t])

/-- On these tokens, if the reader refuses one, it would have taken any that it names in its place. Some
things it never expects. -/
def OffersOn (never : List Expectation) (read : Reader σ α) (ts : Tokens σ) : Prop :=
  ∀ e, read ts = .error e → e.expected ∉ never ∧
    ∃ front, ts = front ++ e.remaining ∧ OffersBehind read front e.expected

/-- The reader offers what it names, on all tokens. -/
def Offers (never : List Expectation) (read : Reader σ α) : Prop :=
  ∀ ts, OffersOn never read ts

variable {never : List Expectation}

theorem Offers.mono {never' : List Expectation} {read : Reader σ α} (h : Offers never' read)
    (hsub : never ⊆ never') : Offers never read := by
  intro ts e he
  obtain ⟨hnever, hoffers⟩ := h ts e he
  exact ⟨fun hmem => hnever (hsub hmem), hoffers⟩

theorem offers_pure (a : α) : Offers never (pure a : Reader σ α) := by
  intro ts e h
  cases h

theorem offers_takes (s : Symbol) : Offers never (takes (σ := σ) s) := by
  intro ts e h
  simp only [takes] at h
  split at h <;> cases h

theorem Offers.ite {read read' : Reader σ α} (c : Bool) (h : Offers never read)
    (h' : Offers never read') : Offers never (if c then read else read') := by
  cases c with
  | true => exact h
  | false => exact h'

/-- A token that is refused for no other than those that mean something. -/
theorem tokenThat_offers {meaning : Token → Option α} {expected : Expectation}
    (hnames : ∀ {t}, expected.NamesInside t → (meaning t).isSome ∧ goesOn t = false)
    (hnever : expected ∉ never) : Offers never (tokenThat (σ := σ) meaning expected) := by
  intro ts e h
  obtain ⟨rfl, -⟩ := tokenThat_eq_error.1 h
  refine ⟨hnever, [], rfl, fun t ht => ?_⟩
  obtain ⟨hmeaning, hplain⟩ := hnames ht
  obtain ⟨a, ha⟩ := Option.isSome_iff_exists.1 hmeaning
  refine ⟨fun hgoes => absurd hgoes (by simp [hplain]), drains_of_ok (a := ⟨a, t.place⟩) ?_⟩
  exact tokenThat_eq_ok.2 ⟨t.value, ha, rfl⟩

/-- Readers one after the other offer what they name, if the first stops in front of the tokens that the
second could take. -/
theorem Offers.bind {stop : α → Tokens σ → Prop} {read : Reader σ α} {next : α → Reader σ β}
    (hprompt : Prompt stop read) (hread : Offers never read) (hnext : ∀ a, Offers never (next a))
    (hend : ∀ a, Drains (next a) [])
    (hmeet : ∀ a t, goesOn t.value = false → Drains (next a) [t] → stop a [t]) :
    Offers never (read >>= next) := by
  intro ts e h
  rcases bind_eq_error.1 h with hfail | ⟨a, mid, ha, hfail⟩
  · obtain ⟨hnever, front, rfl, hoffers⟩ := hread ts e hfail
    exact ⟨hnever, front, rfl, fun t ht => ⟨(hoffers t ht).1, (hoffers t ht).2.bind hend⟩⟩
  · obtain ⟨front, rfl, htakes⟩ := (hprompt ts).ok ha
    obtain ⟨hnever, front', rfl, hoffers⟩ := hnext a mid e hfail
    refine ⟨hnever, front ++ front', by simp, fun t ht => ?_⟩
    obtain ⟨hinside, hdrains⟩ := hoffers t ht
    refine ⟨fun hgoes hempty => hinside hgoes (List.append_eq_nil_iff.1 hempty).2, ?_⟩
    rw [List.append_assoc]
    refine drains_bind_of_ok (htakes _ ?_) hdrains
    cases front' with
    | cons u front' => exact .inr rfl
    | nil =>
      refine .inl (hmeet a t ?_ hdrains)
      rw [← Bool.not_eq_true]
      exact fun hgoes => hinside hgoes rfl

theorem Offers.bind_orderly {read : Reader σ α} {next : α → Reader σ β} (hprompt : Orderly read)
    (hread : Offers never read) (hnext : ∀ a, Offers never (next a))
    (hend : ∀ a, Drains (next a) []) : Offers never (read >>= next) :=
  hread.bind hprompt hnext hend fun _ _ hplain _ => settled_singleton hplain

/-- A reader that takes a first token and goes on as another offers what that one does. -/
theorem OffersOn.cons {read inner : Reader σ α} {t : Placed σ Token} {ts : Tokens σ}
    (h : OffersOn never inner ts) (hread : ∀ ts, read (t :: ts) = inner ts) :
    OffersOn never read (t :: ts) := by
  intro e he
  rw [hread] at he
  obtain ⟨hnever, front, rfl, hoffers⟩ := h e he
  refine ⟨hnever, t :: front, rfl, fun u hu => ⟨fun _ => by simp, ?_⟩⟩
  rw [List.cons_append, Drains, hread]
  exact (hoffers u hu).2

/-! ### Repetition -/

theorem drains_whileSeen {more : Tokens σ → Bool} {read : Reader σ α} {ts : Tokens σ}
    (hmore : more ts = true) (h : Drains read ts) (hend : Drains (whileSeen more read) []) :
    Drains (whileSeen more read) ts := by
  obtain ⟨a, ha⟩ | ⟨expected, he⟩ := h.cases
  · rw [Drains, whileSeen, if_pos hmore, ha]
    by_cases hlt : ([] : Tokens σ).length < ts.length
    · simp only [hlt, if_true]
      obtain ⟨as, has⟩ | ⟨expected, he⟩ := hend.cases
      · rw [has]
      · rw [he]
    · simp only [hlt, if_false]
  · exact drains_of_error (whileSeen_of_refusal hmore he) rfl

theorem drains_whileSeen_of_ok {more : Tokens σ → Bool} {read : Reader σ α} {ts rest : Tokens σ} {a : α}
    (hmore : more ts = true) (hread : read ts = .ok (a, rest)) (hlt : rest.length < ts.length)
    (h : Drains (whileSeen more read) rest) : Drains (whileSeen more read) ts := by
  obtain ⟨as, has⟩ | ⟨expected, he⟩ := h.cases
  · exact drains_of_ok (whileSeen_of_ok hmore hread hlt has)
  · exact drains_of_error (whileSeen_of_error hmore hread hlt he) rfl

/-- Repeating a reader offers what the reader names, if it goes on with what the reader would take. -/
theorem whileSeen_offers {read : Reader σ α} {more : Tokens σ → Bool}
    (hprompt : ∀ ts, more ts = true → PromptOn (fun _ => Settled) read ts)
    (hread : ∀ ts, more ts = true → OffersOn never read ts)
    (hprogress : ∀ {ts rest a}, read ts = .ok (a, rest) → rest.length < ts.length)
    (hhead : ∀ {ts ts' : Tokens σ}, ts.head? = ts'.head? → more ts = more ts')
    (hgoes : ∀ t, Drains read [t] → more [t] = true)
    (hend : Drains (whileSeen more read) []) : Offers never (whileSeen more read) := by
  intro ts e h
  fun_induction Reader.whileSeen more read ts with
  | case1 ts hmore e' he =>
    cases h
    obtain ⟨hnever, front, rfl, hoffers⟩ := hread ts hmore _ he
    refine ⟨hnever, front, rfl, fun t ht => ⟨(hoffers t ht).1, ?_⟩⟩
    have hdrains := (hoffers t ht).2
    refine drains_whileSeen ?_ hdrains hend
    cases front with
    | nil => exact hgoes t hdrains
    | cons u front =>
      rw [← hmore]
      exact hhead rfl
  | case2 ts hmore a mid ha hlt e' he ih =>
    cases h
    obtain ⟨front, rfl, htakes⟩ := (hprompt ts hmore).ok ha
    obtain ⟨hnever, front', rfl, hoffers⟩ := ih he
    refine ⟨hnever, front ++ front', by simp, fun t ht => ?_⟩
    obtain ⟨hinside, hdrains⟩ := hoffers t ht
    refine ⟨fun hgoes hempty => hinside hgoes (List.append_eq_nil_iff.1 hempty).2, ?_⟩
    have hfirst : read (front ++ (front' ++ [t])) = .ok (a, front' ++ [t]) := by
      refine htakes _ ?_
      cases front' with
      | cons u front' => exact .inr rfl
      | nil =>
        refine .inl (settled_singleton ?_)
        rw [← Bool.not_eq_true]
        exact fun hgoes => hinside hgoes rfl
    have hagain : more (front ++ (front' ++ [t])) = true := by
      rw [← hmore]
      exact hhead (head?_append_of_lt hlt _)
    rw [List.append_assoc]
    exact drains_whileSeen_of_ok hagain hfirst (hprogress hfirst) hdrains
  | case3 => cases h
  | case4 => cases h
  | case5 => cases h

theorem drains_commaSeparated {read : Reader σ α} {ts : Tokens σ} (h : Drains read ts) :
    Drains (commaSeparated read) ts := by
  obtain ⟨a, ha⟩ | ⟨expected, he⟩ := h.cases
  · exact drains_of_ok (commaSeparated_of_last ha rfl)
  · exact drains_of_error (commaSeparated_of_refusal he) rfl

theorem drains_commaSeparated_of_comma {read : Reader σ α} {front rest : Tokens σ} {p : σ} {a : α}
    (hread : read (front ++ ⟨.symbol .comma, p⟩ :: rest) = .ok (a, ⟨.symbol .comma, p⟩ :: rest))
    (h : Drains (commaSeparated read) rest) :
    Drains (commaSeparated read) (front ++ ⟨.symbol .comma, p⟩ :: rest) := by
  rw [Drains, commaSeparated_of_comma hread]
  obtain ⟨as, has⟩ | ⟨expected, he⟩ := h.cases
  · rw [has]
  · rw [he]

theorem Offers.commaSeparated {stop : α → Tokens σ → Prop} {read : Reader σ α} (h : Offers never read)
    (hprompt : Prompt stop read) : Offers never (commaSeparated read) := by
  intro ts e he
  fun_induction Reader.commaSeparated read ts with
  | case1 ts e' hread =>
    cases he
    obtain ⟨hnever, front, rfl, hoffers⟩ := h ts _ hread
    exact ⟨hnever, front, rfl, fun t ht => ⟨(hoffers t ht).1, drains_commaSeparated (hoffers t ht).2⟩⟩
  | case2 ts a mid ha hcomma e' hread ih =>
    cases he
    obtain ⟨front, rfl, htakes⟩ := (hprompt ts).ok ha
    obtain ⟨p, behind, rfl⟩ := startsWith_eq_true.1 hcomma.1
    obtain ⟨hnever, front', hbehind, hoffers⟩ := ih hread
    obtain rfl : behind = front' ++ e.remaining := hbehind
    refine ⟨hnever, front ++ ⟨.symbol .comma, p⟩ :: front', by simp, fun t ht => ⟨by simp, ?_⟩⟩
    rw [List.append_assoc, List.cons_append]
    exact drains_commaSeparated_of_comma (htakes _ (.inr rfl)) (hoffers t ht).2
  | case3 => cases he
  | case4 => cases he

/-- Behind things with commas between them, another comma asks for a further one. -/
theorem drains_comma {read : Reader σ α} {form : Tokens σ → α → Prop} {marks : List Symbol}
    {w : Tokens σ} {as : List α} (hlist : Listed form w as) (hcomplete : Complete read form marks)
    (hcomma : .comma ∉ marks) (hend : Drains read []) (p : σ) :
    Drains (Reader.commaSeparated read) (w ++ [⟨.symbol .comma, p⟩]) := by
  induction hlist with
  | last only =>
    have hread := hcomplete only (stops_symbol hcomma p [])
    exact drains_commaSeparated_of_comma hread (drains_commaSeparated hend)
  | @more w ws a as q head _ ih =>
    have hread := hcomplete head (stops_symbol hcomma q (ws ++ [⟨.symbol .comma, p⟩]))
    rw [List.append_assoc, List.cons_append]
    exact drains_commaSeparated_of_comma hread ih

/-- Things with commas between them and a closing symbol behind: where that is expected, a comma is named
besides it. -/
theorem enclosed_offers {read : Reader σ α} {form : Tokens σ → α → Prop} {marks : List Symbol}
    {closing : Symbol} {expected : Expectation} (hoffers : Offers never read) (hprompt : Orderly read)
    (hsound : Sound read form) (hcomplete : Complete read form marks) (hcomma : .comma ∉ marks)
    (hne : ∀ {w a}, form w a → w ≠ []) (hclosing : goesOn (.symbol closing) = false)
    (hnames : ∀ {t}, expected.Names t → t = .symbol closing ∨ t = .symbol .comma)
    (hnever : expected ∉ never) :
    Offers never (do
      let as ← commaSeparated read
      let _ ← symbol closing expected
      return as) := by
  have hlist : Orderly (commaSeparated read) := hprompt.commaSeparated fun _ _ => id
  intro ts e h
  rcases bind_eq_error.1 h with hfail | ⟨as, mid, has, hfail⟩
  · obtain ⟨hscope, front, rfl, hbehind⟩ := hoffers.commaSeparated hprompt ts e hfail
    exact ⟨hscope, front, rfl, fun t ht => ⟨(hbehind t ht).1, (hbehind t ht).2.bind fun _ => rfl⟩⟩
  · obtain ⟨front, rfl, htakes⟩ := (hlist ts).ok has
    obtain ⟨w, hw, hform⟩ := hsound.commaSeparated has
    obtain rfl : front = w := List.append_cancel_right hw
    obtain ⟨rfl, -⟩ := symbol_eq_error.1 (bind_pure_eq_error.1 hfail)
    have hfront : front ≠ [] := by
      cases hform with
      | last only => exact hne only
      | more => simp
    refine ⟨hnever, front, rfl, fun t ht => ⟨fun _ => hfront, ?_⟩⟩
    obtain ⟨value, p⟩ := t
    obtain rfl | rfl : value = .symbol closing ∨ value = .symbol .comma := hnames ht.named
    · have hread := htakes [⟨.symbol closing, p⟩] (.inl (settled_singleton hclosing))
      refine drains_of_ok (a := as) ?_
      exact bind_eq_ok.2 ⟨as, _, hread, bind_eq_ok.2 ⟨p, [], symbol_eq_ok.2 rfl, rfl⟩⟩
    · exact (drains_comma hform hcomplete hcomma hprompt.drains_nil p).bind fun _ => rfl

/-! ### Single tokens -/

/-- What is made of what was read is no matter of the offer. -/
theorem Offers.bind_pure {read : Reader σ α} (h : Offers never read) (f : α → β) :
    Offers never (read >>= fun a => pure (f a)) := by
  intro ts e he
  obtain ⟨hnever, front, hts, hoffers⟩ := h ts e (bind_pure_eq_error.1 he)
  exact ⟨hnever, front, hts, fun t ht => ⟨(hoffers t ht).1, (hoffers t ht).2.bind fun _ => rfl⟩⟩

theorem symbol_offers {s : Symbol} {expected : Expectation}
    (hnames : ∀ {t}, expected.NamesInside t → t = .symbol s) (hs : goesOn (.symbol s) = false)
    (hnever : expected ∉ never) : Offers never (symbol (σ := σ) s expected) := by
  have hfound : Offers never
      (tokenThat (σ := σ) (fun t => if t = .symbol s then some () else none) expected) := by
    refine tokenThat_offers ?_ hnever
    intro t ht
    obtain rfl := hnames ht
    exact ⟨by simp, hs⟩
  exact hfound.bind_pure _

theorem name_offers {expected : Expectation}
    (hnames : ∀ {t}, expected.NamesInside t → ∃ n, t = .name n) (hnever : expected ∉ never) :
    Offers never (name (σ := σ) expected) := by
  refine tokenThat_offers ?_ hnever
  intro t ht
  obtain ⟨n, rfl⟩ := hnames ht
  exact ⟨rfl, rfl⟩

end Reader

namespace Expectation

/-- The only alternative of an expectation is what it names. -/
theorem NamesInside.means {e : Expectation} {t : Token} {a : Alternative} (h : e.NamesInside t)
    (hone : e.alternatives = [a]) : a.Means t := by
  obtain ⟨b, hmem, hmeans⟩ := h.named
  rw [hone, List.mem_singleton] at hmem
  exact hmem ▸ hmeans

/-- The name of a field is all that is named besides the closing brace. -/
theorem NamesInside.name_of_fieldName {t : Token} (h : fieldName.NamesInside t) : ∃ n, t = .name n := by
  obtain ⟨a, hmem, hmeans⟩ := h.named
  simp only [alternatives, List.mem_cons, List.not_mem_nil, or_false] at hmem
  obtain rfl | rfl := hmem
  · exact hmeans
  · exact absurd hmeans h.brace_ne

theorem NamesInside.name_of_fieldOrCloseBrace {t : Token} (h : fieldOrCloseBrace.NamesInside t) :
    ∃ n, t = .name n := by
  obtain ⟨a, hmem, hmeans⟩ := h.named
  simp only [alternatives, List.mem_cons, List.not_mem_nil, or_false] at hmem
  obtain rfl | rfl := hmem
  · exact hmeans.resolve_left h.at_ne
  · exact absurd hmeans h.brace_ne

end Expectation

namespace Reader

variable {σ α β : Type}

/-! ### Annotations -/

theorem literal_offers : Offers Expectation.atParts (literal (σ := σ)) := by
  have hfound : Offers Expectation.atParts (tokenThat (σ := σ) literalOf? .literal) := by
    refine tokenThat_offers ?_ (by decide)
    intro t ht
    have hmeans : (literalOf? t).isSome := ht.means rfl
    obtain ⟨value, hvalue⟩ := Option.isSome_iff_exists.1 hmeans
    refine ⟨hmeans, ?_⟩
    cases literalForm_of_literalOf? hvalue () <;> rfl
  exact hfound.bind_pure _

theorem arguments_offers [Inhabited σ] : Offers Expectation.atParts (arguments (σ := σ)) := by
  have hliterals : Offers Expectation.atParts (do
      let values ← commaSeparated (literal (σ := σ))
      let _ ← symbol .closeParen .closeParen
      return values) := by
    refine enclosed_offers literal_offers literal_orderly literal_sound literal_complete (by simp) ?_ rfl
      ?_ (by decide)
    · intro w value hform
      cases hform <;> simp
    · intro t ht
      simpa [Expectation.Names, Expectation.alternatives, Alternative.Means] using ht
  have hend : Drains (do
      let values ← commaSeparated (literal (σ := σ))
      let _ ← symbol .closeParen .closeParen
      return values) [] :=
    (drains_commaSeparated literal_orderly.drains_nil).bind fun _ => rfl
  have hinside : ∀ closed : Bool, Drains (do
      if closed then return []
      else
        let values ← commaSeparated (literal (σ := σ))
        let _ ← symbol .closeParen .closeParen
        return values) [] := by
    intro closed
    cases closed with
    | true => rfl
    | false => exact hend
  refine (offers_takes .openParen).bind_orderly (takes_orderly rfl)
    (fun opened => .ite opened ?_ (offers_pure [])) ?_
  · refine (offers_takes .closeParen).bind (takes_prompt .closeParen)
      (fun closed => .ite closed (offers_pure []) hliterals) hinside ?_
    intro closed t _ hdrains
    cases closed with
    | true => exact .inl rfl
    -- no literal is read where the parenthesis closes
    | false =>
      right
      rw [← Bool.not_eq_true]
      intro hclose
      obtain ⟨p, rest, heq⟩ := startsWith_eq_true.1 hclose
      have hrefused : commaSeparated literal (⟨.symbol .closeParen, p⟩ :: rest) =
          .error ⟨.literal, ⟨.symbol .closeParen, p⟩ :: rest⟩ := commaSeparated_of_refusal rfl
      rw [heq] at hdrains
      exact not_drains_of_refusal (bind_eq_error.2 (.inl hrefused)) hdrains
  · intro opened
    cases opened with
    | true => exact (drains_takes_nil .closeParen).bind hinside
    | false => rfl

theorem annot_offersOn [Inhabited σ] {ts : Tokens σ} (h : startsWith .atSign ts = true) :
    OffersOn Expectation.atParts annot ts := by
  obtain ⟨p, rest, rfl⟩ := startsWith_eq_true.1 h
  have hname : Offers Expectation.atParts (name (σ := σ) .annotationName) :=
    name_offers (fun ht => ht.means rfl) (by decide)
  have hinner : Offers Expectation.atParts (do
      let name ← name (σ := σ) .annotationName
      let values ← arguments
      return (⟨name.value, values, p⟩ : Annot σ)) :=
    hname.bind_orderly (name_orderly .annotationName) (fun _ => arguments_offers.bind_pure _)
      fun _ => rfl
  exact OffersOn.cons (hinner rest) fun _ => rfl

theorem annotations_offers [Inhabited σ] : Offers Expectation.atParts (annotations (σ := σ)) := by
  refine whileSeen_offers (fun ts => annot_promptOn) (fun ts => annot_offersOn) annot_progress
    startsWith_congr ?_ ?_
  · intro t hdrains
    rw [← Bool.not_eq_false]
    intro hnot
    have hrefused : symbol .atSign .atSign [t] = .error ⟨.atSign, [t]⟩ :=
      symbol_eq_error.2 ⟨rfl, hnot⟩
    exact not_drains_of_refusal (bind_eq_error.2 (.inl hrefused)) hdrains
  · exact drains_of_ok (whileSeen_of_not_more rfl)

/-! ### Types -/

theorem arrayMark_offers [Inhabited σ] : Offers Expectation.atParts (arrayMark (σ := σ)) := by
  have hclose : Offers Expectation.atParts (symbol (σ := σ) .closeBracket .closeBracket) :=
    symbol_offers (fun ht => ht.means rfl) rfl (by decide)
  refine (offers_takes .openBracket).bind_orderly (takes_orderly rfl)
    (fun opened => .ite opened (hclose.bind_pure _) (offers_pure false)) fun opened => ?_
  cases opened <;> rfl

/-- Type arguments are offered if they are behind the bracket that opens them. -/
theorem typeArguments_offers {inBrackets : Reader σ (List (TypeRef σ))}
    (h : ∀ ts, startsWith .openAngle ts = true → OffersOn never (typeArguments inBrackets) ts) :
    Offers never (typeArguments inBrackets) := by
  intro ts
  cases hopen : startsWith .openAngle ts with
  | true => exact h ts hopen
  | false =>
    intro e he
    rw [typeArguments_of_not_startsWith inBrackets hopen] at he
    cases he

theorem typeWith_offers [Inhabited σ] {inBrackets : Reader σ (List (TypeRef σ))}
    (hprompt : Orderly (typeArguments inBrackets))
    (h : Offers Expectation.atParts (typeArguments inBrackets)) :
    Offers Expectation.atParts (typeWith inBrackets) := by
  have hname : Offers Expectation.atParts (name (σ := σ) .type) :=
    name_offers (fun ht => ht.means rfl) (by decide)
  refine hname.bind_orderly (name_orderly .type) (fun _ => ?_) fun _ => rfl
  refine h.bind_orderly hprompt (fun _ => ?_) fun _ => rfl
  exact arrayMark_offers.bind_orderly arrayMark_orderly
    (fun _ => (offers_takes .question).bind_pure _) fun _ => rfl

theorem type_offers [Inhabited σ] (levels : Nat) :
    Offers Expectation.atParts (type (σ := σ) levels) := by
  induction levels with
  | zero =>
    refine typeWith_offers ?_ (typeArguments_offers fun ts hopen => ?_)
    · exact reject_orderly
    · obtain ⟨p, rest, rfl⟩ := startsWith_eq_true.1 hopen
      intro e he
      cases he
      have hdeep : Expectation.shallowerType ∉ Expectation.atParts := by decide
      refine ⟨hdeep, [], rfl, fun t ht => ?_⟩
      obtain ⟨a, hmem, -⟩ := ht.named
      cases hmem
  | succ levels ih =>
    refine typeWith_offers ?_ (typeArguments_offers fun ts hopen => ?_)
    · exact listed_orderly (type_orderly levels)
    · obtain ⟨p, rest, rfl⟩ := startsWith_eq_true.1 hopen
      have hinner : Offers Expectation.atParts (do
          let types ← commaSeparated (type (σ := σ) levels)
          let _ ← symbol .closeAngle .closeAngle
          return types) := by
        refine enclosed_offers ih (type_orderly levels) (type_sound levels) (type_complete levels)
          (by decide) ?_ rfl ?_ (by decide)
        · intro w t hform
          cases hform.1 <;> simp
        · intro t ht
          simpa [Expectation.Names, Expectation.alternatives, Alternative.Means] using ht
      exact OffersOn.cons (hinner rest) fun _ => rfl

/-! ### Fields -/

theorem separator_offers : Offers Expectation.atParts (separator (σ := σ)) := by
  refine (offers_takes .semicolon).bind_orderly (takes_orderly rfl)
    (fun divided => .ite divided (offers_pure ()) ((offers_takes .comma).bind_pure _)) fun divided => ?_
  cases divided <;> rfl

/-- Behind its name, a field offers what it names. -/
theorem behindFieldName_offers [Inhabited σ] (make : TypeRef σ → List (Annot σ) → Field σ) :
    Offers Expectation.atParts (do
      let _ ← symbol .colon .colon
      let type ← type maxTypeDepth
      let back ← annotations
      separator
      return make type back) := by
  have hcolon : Offers Expectation.atParts (symbol (σ := σ) .colon .colon) :=
    symbol_offers (fun ht => ht.means rfl) rfl (by decide)
  refine hcolon.bind_orderly (symbol_orderly .colon (by decide)) (fun _ => ?_) fun _ => rfl
  refine (type_offers maxTypeDepth).bind_orderly (type_orderly maxTypeDepth) (fun type => ?_)
    fun _ => annotations_orderly.drains_nil.bind fun _ => rfl
  exact annotations_offers.bind_orderly annotations_orderly
    (fun back => separator_offers.bind_pure fun _ => make type back) fun _ => rfl

theorem field_offers [Inhabited σ] : Offers [.atSign] (field (σ := σ)) := by
  have hname : Offers [.atSign] (name (σ := σ) .fieldName) :=
    name_offers (fun ht => ht.name_of_fieldName) (by decide)
  have hsub : [.atSign] ⊆ Expectation.atParts := by decide
  refine (annotations_offers.mono hsub).bind_orderly annotations_orderly (fun front => ?_) fun _ => rfl
  exact hname.bind_orderly (name_orderly .fieldName)
    (fun name => (behindFieldName_offers fun type back =>
      ⟨name.value, type, front ++ back, name.place⟩).mono hsub) fun _ => rfl

theorem nextField_offers [Inhabited σ] : Offers [.atSign] (nextField (σ := σ)) := by
  intro ts e he
  cases ts with
  | nil =>
    cases he
    have hkind : Expectation.fieldOrCloseBrace ∉ [Expectation.atSign] := by decide
    refine ⟨hkind, [], rfl, fun t ht => ?_⟩
    obtain ⟨value, p⟩ := t
    obtain ⟨n, rfl⟩ : ∃ n, value = .name n := ht.name_of_fieldOrCloseBrace
    refine ⟨fun hgoes => (by cases hgoes), ?_⟩
    have hfront : annotations [⟨.name n, p⟩] = .ok ([], [⟨.name n, p⟩]) := whileSeen_of_not_more rfl
    exact (drains_bind_of_ok hfront rfl : Drains field [⟨.name n, p⟩])
  | cons u ts =>
    obtain ⟨hnever, front, hts, hoffers⟩ := field_offers (u :: ts) e he
    refine ⟨hnever, front, hts, fun t ht => ⟨(hoffers t ht).1, ?_⟩⟩
    have hdrains := (hoffers t ht).2
    cases front <;> exact hdrains

/-- A body is refused for one of its fields: these end in front of a brace, so it is not missing. -/
theorem fields_refusal {ts : Tokens σ} {e : Rejection σ} (h : fields ts = .error e) :
    whileSeen (fun ts => !startsWith .closeBrace ts) nextField ts = .error e := by
  rcases bind_eq_error.1 h with hfail | ⟨fs, rest, hfields, hfail⟩
  · exact hfail
  · have hbrace : (!startsWith .closeBrace rest) = false := whileSeen_exhaustive nextField_progress hfields
    have hmissing := (symbol_eq_error.1 (bind_pure_eq_error.1 hfail)).2
    rw [hmissing] at hbrace
    cases hbrace

theorem fields_offers [Inhabited σ] : Offers [.atSign] (fields (σ := σ)) := by
  have hloop : Offers [.atSign]
      (whileSeen (fun ts => !startsWith .closeBrace ts) (nextField (σ := σ))) := by
    refine whileSeen_offers (fun ts _ => nextField_orderly ts) (fun ts _ => nextField_offers ts)
      nextField_progress ?_ ?_ ?_
    · intro ts ts' hhead
      rw [startsWith_congr hhead]
    · intro t hdrains
      rw [Bool.not_eq_true', ← Bool.not_eq_true]
      intro hclose
      obtain ⟨p, rest, heq⟩ := startsWith_eq_true.1 hclose
      rw [heq] at hdrains
      have hfront : annotations (⟨.symbol .closeBrace, p⟩ :: rest) =
          .ok ([], ⟨.symbol .closeBrace, p⟩ :: rest) := whileSeen_of_not_more rfl
      have hrefused : field (⟨.symbol .closeBrace, p⟩ :: rest) =
          .error ⟨.fieldName, ⟨.symbol .closeBrace, p⟩ :: rest⟩ :=
        bind_eq_error.2 (.inr ⟨_, _, hfront, rfl⟩)
      exact not_drains_of_refusal hrefused hdrains
    · exact drains_of_error (whileSeen_of_refusal rfl rfl) rfl
  intro ts e h
  obtain ⟨hnever, front, hts, hoffers⟩ := hloop ts e (fields_refusal h)
  exact ⟨hnever, front, hts, fun t ht => ⟨(hoffers t ht).1, (hoffers t ht).2.bind fun _ => rfl⟩⟩

/-! ### Declarations -/

theorem logicalName_offers : Offers Expectation.atParts (logicalName (σ := σ)) := by
  intro ts e h
  obtain ⟨rfl, -⟩ := logicalName_eq_error.1 h
  have hkind : logicalNameExpected ts = .logicalName ∨ logicalNameExpected ts = .nonEmptyLogicalName := by
    unfold logicalNameExpected
    split
    · exact .inr rfl
    · exact .inl rfl
  refine ⟨?_, [], rfl, fun t ht => ?_⟩
  · rcases hkind with hkind | hkind <;> simp only [hkind] <;> decide
  · obtain ⟨value, p⟩ := t
    obtain ⟨s, hs, rfl⟩ : ∃ s, s ≠ "" ∧ value = .string s := by
      rcases hkind with hkind | hkind <;> rw [hkind] at ht <;> exact ht.means rfl
    refine ⟨fun hgoes => (by cases hgoes), drains_of_ok (a := s) ?_⟩
    rw [List.nil_append, logicalName_eq]
    simp [logicalNameOf?, hs]

theorem nameClause_offers (otherwise : String) :
    Offers Expectation.atParts (nameClause (σ := σ) otherwise) := by
  intro ts
  by_cases has : ∃ p rest, ts = ⟨.keyword .as, p⟩ :: rest
  · obtain ⟨p, rest, rfl⟩ := has
    exact OffersOn.cons (logicalName_offers rest) fun _ => rfl
  · intro e h
    rw [nameClause_of_not_as otherwise has] at h
    cases h

/-- A kind of declaration is named where it is expected, with annotations in front or without. -/
theorem kind_offers (annotated : Bool) : Offers [.atSign] (tokenThat (σ := σ) kindOf?
    (if annotated then .declaration else .declarationKeyword)) := by
  refine tokenThat_offers ?_ (by cases annotated <;> decide)
  intro t ht
  have hkind : (kindOf? t).isSome := by
    cases annotated with
    | true => exact (ht.means (a := .declaration) rfl).resolve_left ht.at_ne
    | false =>
      obtain ⟨a, hmem, hmeans⟩ := ht.named
      simp only [Bool.false_eq_true, if_false, Expectation.alternatives, List.mem_cons,
        List.not_mem_nil, or_false] at hmem
      obtain rfl | rfl := hmem <;> obtain rfl := hmeans <;> rfl
  refine ⟨hkind, ?_⟩
  obtain ⟨kind, hkind⟩ := Option.isSome_iff_exists.1 hkind
  cases kindForm_of_kindOf? hkind <;> rfl

theorem declaration_offers [Inhabited σ] : Offers [.atSign] (declaration (σ := σ)) := by
  have hsub : [.atSign] ⊆ Expectation.atParts := by decide
  have hname : Offers [.atSign] (name (σ := σ) .declarationName) :=
    name_offers (fun ht => ht.means rfl) (by decide)
  have hbrace : Offers [.atSign] (symbol (σ := σ) .openBrace .openBrace) :=
    symbol_offers (fun ht => ht.means rfl) rfl (by decide)
  refine (annotations_offers.mono hsub).bind_orderly annotations_orderly (fun front => ?_) fun _ => rfl
  refine (kind_offers front.isEmpty).bind_orderly
    (tokenThat_orderly ⟨.keyword .model, by decide, .model, rfl⟩) (fun kind => ?_) fun _ => rfl
  refine hname.bind_orderly (name_orderly .declarationName) (fun name => ?_) fun _ => rfl
  refine ((nameClause_offers name.value).mono hsub).bind_orderly (nameClause_orderly name.value)
    (fun _ => ?_) fun _ => rfl
  exact hbrace.bind_orderly (symbol_orderly .openBrace (by decide)) (fun _ => fields_offers.bind_pure _)
    fun _ => fields_orderly.drains_nil.bind fun _ => rfl

/-- The parser offers what it names in an error, but for what opens annotations or closes a body. -/
theorem declarations_offers [Inhabited σ] : Offers [.atSign] (declarations (σ := σ)) := by
  refine whileSeen_offers (fun ts _ => declaration_orderly ts) (fun ts _ => declaration_offers ts)
    declaration_progress ?_ (fun _ _ => rfl) ?_
  · intro ts ts' hhead
    cases ts <;> cases ts' <;> first | rfl | cases hhead
  · exact drains_of_ok (whileSeen_of_not_more rfl)

end Reader

end ModelIdl
