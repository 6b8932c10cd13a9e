import Mathlib
import ModelIdl.Proofs.Schema.Alternatives
import ModelIdl.Proofs.Token.Progress
import ModelIdl.Schema.OnDemand

/-!
# ModelIdl.Proofs.Schema.OnDemand

Reading on demand is reading tokens. Design points:

* **A desk stands in front of tokens**: the one in hand and those that its cursor would still yield
  (`Desk.tokens`). What is read on demand *serves* a reader if it takes the same from these tokens, refuses the
  same, or meets the fault that ends them where the reader gets to their end (`Demand.Serves`).
* **Nothing gives up.** Each token that is taken costs one step of the cursor and is not there any more
  (`Desk.Took`), and what is read in a loop takes a token. So patience for as many tokens as there are is enough,
  and a type gives up no earlier than it is refused for being too deep.
-/

namespace ModelIdl

/-! ### One round of a repetition -/

namespace Reader

variable {σ α : Type}

/-- Repetition is one round and then the others, where a round takes something. -/
theorem whileSeen_of_more {more : Tokens σ → Bool} {r : Reader σ α} {ts : Tokens σ}
    (hmore : more ts = true) (hprogress : ∀ {a rest}, r ts = .ok (a, rest) → rest.length < ts.length) :
    whileSeen more r ts =
      (do let a ← r; let as ← whileSeen more r; return a :: as : Reader σ (List α)) ts := by
  rw [whileSeen, if_pos hmore]
  simp only [bind]
  cases hr : r ts with
  | error e => rfl
  | ok p =>
    simp only [hprogress hr, if_true]
    cases whileSeen more r p.2 <;> rfl

theorem drains_whileSeen_nil {more : Tokens σ → Bool} {r : Reader σ α} (h : Drains r []) :
    Drains (whileSeen more r) [] := by
  cases hmore : more [] with
  | false => exact drains_of_ok (whileSeen_of_not_more hmore)
  | true =>
    obtain ⟨a, ha⟩ | ⟨expected, he⟩ := h.cases
    · refine drains_of_ok (a := [a]) ?_
      rw [whileSeen, if_pos hmore, ha]
      rfl
    · exact drains_of_error (whileSeen_of_refusal hmore he) rfl

/-- A list is one thing and, behind a comma, the others, if reading a thing gives no tokens back. -/
theorem commaSeparated_of_le {r : Reader σ α} {ts : Tokens σ}
    (hle : ∀ {a rest}, r ts = .ok (a, rest) → rest.length ≤ ts.length) :
    commaSeparated r ts =
      (do
        let a ← r
        if ← takes .comma then
          let as ← commaSeparated r
          return a :: as
        else
          return [a] : Reader σ (List α)) ts := by
  cases hr : r ts with
  | error e => simp only [commaSeparated_of_refusal hr, bind, hr]
  | ok p =>
    obtain ⟨a, rest⟩ := p
    rw [bind_of_ok hr]
    cases hcomma : startsWith .comma rest with
    | false =>
      rw [commaSeparated_of_last hr hcomma, bind_of_ok (takes_of_not_startsWith hcomma)]
      rfl
    | true =>
      obtain ⟨place, behind, rfl⟩ := startsWith_eq_true.1 hcomma
      have hlt : behind.length < ts.length := hle hr
      rw [bind_of_ok (takes_eq_ok.2 (.inl ⟨rfl, place, rfl⟩)), if_pos rfl, commaSeparated, hr]
      simp only [hcomma, List.tail_cons, hlt, and_self, if_true, bind]
      cases commaSeparated r behind with
      | error e => rfl
      | ok q => rfl

end Reader

open Reader (Drains startsWith)

/-! ### Desks -/

namespace Desk

/-- The tokens in front of the desk. -/
def tokens (s : Desk) : Tokens Span :=
  if s.current.value = .endOfInput then [] else s.current :: s.cursor.stream.1.tokens

/-- How these tokens end. -/
def ending (s : Desk) : Ending Span :=
  if s.current.value = .endOfInput then .finished s.current.place else s.cursor.stream.1.ending

/-- A desk is at the end of the input, or a token is in front of it. -/
theorem tokens_cases (s : Desk) :
    (s.current.value = .endOfInput ∧ s.tokens = [] ∧ s.ending = .finished s.current.place) ∨
    (s.current.value ≠ .endOfInput ∧ s.tokens = s.current :: s.cursor.stream.1.tokens ∧
      s.ending = s.cursor.stream.1.ending) := by
  by_cases hend : s.current.value = .endOfInput
  · exact .inl ⟨hend, if_pos hend, if_pos hend⟩
  · exact .inr ⟨hend, if_neg hend, if_neg hend⟩

/-- The first token in front of the desk is in hand, and the others are those of the cursor. -/
theorem current_of_tokens {s : Desk} {t : Placed Span Token} {rest : Tokens Span} (h : s.tokens = t :: rest) :
    s.current = t ∧ s.cursor.stream.1.tokens = rest ∧ s.ending = s.cursor.stream.1.ending := by
  obtain ⟨-, htokens, -⟩ | ⟨-, htokens, hending⟩ := s.tokens_cases
  · rw [h] at htokens
    cases htokens
  · obtain ⟨rfl, rfl⟩ := List.cons.inj (htokens.symm.trans h)
    exact ⟨rfl, rfl, hending⟩

theorem startsWith_tokens (s : Desk) (mark : Symbol) :
    startsWith mark s.tokens = (s.current.value == .symbol mark) := by
  obtain ⟨hend, htokens, -⟩ | ⟨-, htokens, -⟩ := s.tokens_cases
  · rw [htokens, hend]
    rfl
  · rw [htokens, Bool.eq_iff_iff, Reader.startsWith_eq_true, beq_iff_eq]
    constructor
    · intro h
      obtain ⟨p, rest, heq⟩ := h
      rw [(List.cons.inj heq).1]
    · intro hvalue
      exact ⟨s.current.place, _, by rw [← hvalue]⟩

theorem isEmpty_tokens (s : Desk) : s.tokens.isEmpty = (s.current.value == .endOfInput) := by
  obtain ⟨hend, htokens, -⟩ | ⟨hne, htokens, -⟩ := s.tokens_cases
  · rw [htokens, hend]
    rfl
  · rw [htokens, beq_eq_false_iff_ne.2 hne]
    rfl

/-- Refusing the token in hand is refusing the tokens. -/
theorem toError_tokens (s : Desk) (expected : Expectation) :
    (⟨expected, s.tokens⟩ : Rejection Span).toError s.ending =
      .grammatical expected s.current.value s.current.place := by
  obtain ⟨hend, htokens, hending⟩ | ⟨-, htokens, -⟩ := s.tokens_cases
  · rw [htokens, hending, hend]
    rfl
  · rw [htokens]
    rfl

/-- What reading costs: steps for no more tokens than there were, and types inside each other up to so many
more. -/
structure Costs (nested : Nat) (s s' : Desk) : Prop where
  le_pulls : s.pulls ≤ s'.pulls
  pulls_le : s'.pulls ≤ s.pulls + s.tokens.length
  entered : s'.entered = s.entered
  deepest : s'.deepest ≤ max s.deepest (s.entered + nested)

/-- Reading has taken tokens, with one step for each of them, and those that are left end in the same way. -/
structure Took (nested : Nat) (s s' : Desk) : Prop extends Costs nested s s' where
  kept : s'.pulls + s'.tokens.length = s.pulls + s.tokens.length
  ending : s'.ending = s.ending

variable {nested : Nat} {s s' s'' : Desk}

theorem Took.refl (nested : Nat) (s : Desk) : Took nested s s :=
  ⟨⟨Nat.le_refl _, Nat.le_add_right _ _, rfl, Nat.le_max_left _ _⟩, rfl, rfl⟩

theorem Took.length_le (h : Took nested s s') : s'.tokens.length ≤ s.tokens.length := by
  have hpulls := h.le_pulls
  have hkept := h.kept
  omega

theorem Took.costs (h : Took nested s s') (h' : Costs nested s' s'') : Costs nested s s'' where
  le_pulls := Nat.le_trans h.le_pulls h'.le_pulls
  pulls_le := Nat.le_trans h'.pulls_le (Nat.le_of_eq h.kept)
  entered := h'.entered.trans h.entered
  deepest := by
    have hfirst := h.deepest
    have hsecond := h'.deepest
    rw [h.entered] at hsecond
    omega

theorem Took.trans (h : Took nested s s') (h' : Took nested s' s'') : Took nested s s'' :=
  ⟨h.costs h'.toCosts, h'.kept.trans h.kept, h'.ending.trans h.ending⟩

end Desk

namespace Demand

variable {α β : Type} {patience nested : Nat}

/-! ### Serving a reader -/

/-- At this desk, what is read on demand is what the reader reads from the tokens in front of it: it takes the
same, or refuses the same, or meets the fault behind the tokens where the reader comes to their end. -/
inductive ServedAt (nested : Nat) (read : Demand α) (r : Reader Span α) (s : Desk) : Prop
  | took {a : α} {s' : Desk} (here : read s = some (.ok a, s'))
      (there : r s.tokens = .ok (a, s'.tokens)) (took : s.Took nested s')
  | rejected {e : Rejection Span} {s' : Desk} (here : read s = some (.error (e.toError s.ending), s'))
      (there : r s.tokens = .error e) (costs : s.Costs nested s')
  | faulty {fault : Fault} {place : Span} {s' : Desk} (here : read s = some (.error (.lexical fault place), s'))
      (there : Drains r s.tokens) (ending : s.ending = .faulty fault place) (costs : s.Costs nested s')

/-- Wherever there are fewer tokens than there is patience, what is read on demand is what the reader reads. -/
structure Serves (patience nested : Nat) (read : Demand α) (r : Reader Span α) : Prop where
  drains : Drains r []
  served : ∀ s : Desk, s.tokens.length < patience → ServedAt nested read r s

theorem bind_of_ok {read : Demand α} {f : α → Demand β} {s s' : Desk} {a : α}
    (h : read s = some (.ok a, s')) : (read >>= f) s = f a s' := by
  simp only [bind, h]

theorem bind_of_error {read : Demand α} {f : α → Demand β} {s s' : Desk} {e : ParseError Span}
    (h : read s = some (.error e, s')) : (read >>= f) s = some (.error e, s') := by
  simp only [bind, h]

theorem ServedAt.congr {read read' : Demand α} {r r' : Reader Span α} {s : Desk}
    (h : ServedAt nested read r s) (hread : read' s = read s) (hr : r' s.tokens = r s.tokens) :
    ServedAt nested read' r' s := by
  cases h with
  | took here there took => exact .took (hread.trans here) (hr.trans there) took
  | rejected here there costs => exact .rejected (hread.trans here) (hr.trans there) costs
  | faulty here there ending costs =>
    refine .faulty (hread.trans here) ?_ ending costs
    rwa [Drains, hr]

/-- The reader leaves no more tokens than there were. -/
theorem ServedAt.length_le {read : Demand α} {r : Reader Span α} {s : Desk} (h : ServedAt nested read r s)
    {a : α} {rest : Tokens Span} (hr : r s.tokens = .ok (a, rest)) : rest.length ≤ s.tokens.length := by
  cases h with
  | took here there took =>
    rw [there] at hr
    cases hr
    exact took.length_le
  | rejected here there costs =>
    rw [there] at hr
    cases hr
  | faulty here there ending costs =>
    rw [Drains, hr] at there
    rw [there]
    exact Nat.zero_le _

/-- What is read one behind the other serves readers one behind the other. -/
theorem ServedAt.bind {read : Demand α} {r : Reader Span α} {f : α → Demand β} {g : α → Reader Span β}
    {s : Desk} (h : ServedAt nested read r s) (hdrains : ∀ a, Drains (g a) [])
    (hnext : ∀ a s', r s.tokens = .ok (a, s'.tokens) → s.Took nested s' → ServedAt nested (f a) (g a) s') :
    ServedAt nested (read >>= f) (r >>= g) s := by
  cases h with
  | took here there took =>
    cases hnext _ _ there took with
    | took here' there' took' =>
      exact .took ((bind_of_ok here).trans here') ((Reader.bind_of_ok there).trans there') (took.trans took')
    | rejected here' there' costs =>
      refine .rejected ?_ ((Reader.bind_of_ok there).trans there') (took.costs costs)
      rw [bind_of_ok here, here', took.ending]
    | faulty here' there' ending costs =>
      exact .faulty ((bind_of_ok here).trans here') (Reader.drains_bind_of_ok there there')
        (took.ending.symm.trans ending) (took.costs costs)
  | rejected here there costs =>
    exact .rejected (bind_of_error here) (Reader.bind_eq_error.2 (.inl there)) costs
  | faulty here there ending costs =>
    exact .faulty (bind_of_error here) (there.bind hdrains) ending costs

theorem Serves.bind {read : Demand α} {r : Reader Span α} {f : α → Demand β} {g : α → Reader Span β}
    (h : Serves patience nested read r) (hnext : ∀ a, Serves patience nested (f a) (g a)) :
    Serves patience nested (read >>= f) (r >>= g) where
  drains := h.drains.bind fun a => (hnext a).drains
  served s hs := (h.served s hs).bind (fun a => (hnext a).drains) fun a s' _ took =>
    (hnext a).served s' (Nat.lt_of_le_of_lt took.length_le hs)

theorem serves_pure (a : α) : Serves patience nested (pure a) (pure a) :=
  ⟨rfl, fun s _ => .took rfl rfl (.refl nested s)⟩

theorem Serves.ite {read read' : Demand α} {r r' : Reader Span α} (c : Bool)
    (h : Serves patience nested read r) (h' : Serves patience nested read' r') :
    Serves patience nested (if c then read else read') (if c then r else r') := by
  cases c with
  | true => exact h
  | false => exact h'

/-! ### Single tokens -/

theorem servedAt_refuse (nested : Nat) (expected : Expectation) (s : Desk) :
    ServedAt nested (refuse (α := α) expected) (Reader.reject expected) s :=
  .rejected (by rw [s.toError_tokens]; rfl) rfl (Desk.Took.refl nested s).toCosts

theorem serves_refuse (expected : Expectation) :
    Serves patience nested (refuse (α := α) expected) (Reader.reject expected) :=
  ⟨rfl, fun s _ => servedAt_refuse nested expected s⟩

/-- Asking for the next lexeme, if that is no fault, leaves what the cursor would have yielded. -/
theorem advance_of_ok {s : Desk} {t : Token} (h : s.cursor.lexeme.value = .ok t) :
    ∃ s', advance s = some (.ok (), s') ∧ s'.tokens = s.cursor.stream.1.tokens ∧
      s'.ending = s.cursor.stream.1.ending ∧ s'.pulls = s.pulls + 1 ∧ s'.entered = s.entered ∧
      s'.deepest = s.deepest := by
  refine ⟨⟨⟨t, s.cursor.lexeme.place⟩, s.cursor.next, s.pulls + 1, s.entered, s.deepest⟩, ?_, ?_⟩
  · simp only [advance, h]
  · by_cases hend : t = .endOfInput
    · subst hend
      rw [Cursor.stream_of_end h]
      exact ⟨if_pos rfl, if_pos rfl, rfl, rfl, rfl⟩
    · rw [Cursor.stream_of_token h hend]
      exact ⟨if_neg hend, if_neg hend, rfl, rfl, rfl⟩

theorem advance_of_fault {s : Desk} {fault : Fault} (h : s.cursor.lexeme.value = .error fault) :
    ∃ place s', advance s = some (.error (.lexical fault place), s') ∧
      s.cursor.stream.1 = ⟨[], .faulty fault place⟩ ∧ s'.pulls = s.pulls + 1 ∧ s'.entered = s.entered ∧
      s'.deepest = s.deepest := by
  refine ⟨s.cursor.lexeme.place, { s with cursor := s.cursor.next, pulls := s.pulls + 1 }, ?_, ?_⟩
  · simp only [advance, h]
  · rw [Cursor.stream_of_fault h]
    exact ⟨rfl, rfl, rfl, rfl⟩

/-- Asking for the next lexeme takes the token in hand, or finds that a fault is behind it. -/
theorem advance_cases {s : Desk} {t : Placed Span Token} {rest : Tokens Span} (h : s.tokens = t :: rest)
    (nested : Nat) :
    (∃ s', advance s = some (.ok (), s') ∧ s'.tokens = rest ∧ s.Took nested s') ∨
    ∃ fault place s', advance s = some (.error (.lexical fault place), s') ∧ rest = [] ∧
      s.ending = .faulty fault place ∧ s.Costs nested s' := by
  obtain ⟨-, rfl, hending⟩ := Desk.current_of_tokens h
  have hlength := congrArg List.length h
  rw [List.length_cons] at hlength
  cases hvalue : s.cursor.lexeme.value with
  | ok u =>
    obtain ⟨s', hadvance, hrest, hsame, hpulls, hentered, hdeepest⟩ := advance_of_ok hvalue
    refine .inl ⟨s', hadvance, hrest, ⟨?_, ?_, hentered, ?_⟩, ?_, hsame.trans hending.symm⟩
    · omega
    · omega
    · omega
    · rw [hrest]
      omega
  | error fault =>
    obtain ⟨place, s', hadvance, hstream, hpulls, hentered, hdeepest⟩ := advance_of_fault hvalue
    rw [hstream] at hending
    refine .inr ⟨fault, place, s', hadvance, by rw [hstream], hending, ?_, ?_, hentered, ?_⟩
    · omega
    · omega
    · omega

/-- Asking for the next lexeme serves a reader that takes a token, whatever it is. -/
theorem servedAt_advance {s : Desk} {t : Placed Span Token} {rest : Tokens Span} (h : s.tokens = t :: rest)
    (nested : Nat) : ServedAt nested advance (fun ts => .ok ((), ts.tail)) s := by
  obtain ⟨s', hadvance, rfl, htook⟩ | ⟨fault, place, s', hadvance, rfl, hending, hcosts⟩ :=
    advance_cases h nested
  · exact .took hadvance (by rw [h]; rfl) htook
  · exact .faulty hadvance (Reader.drains_of_ok (a := ()) (by rw [h]; rfl)) hending hcosts

/-- What asks for the next lexeme and gives a value serves a reader that takes a token for that value. -/
theorem servedAt_taken {s : Desk} {t : Placed Span Token} {rest : Tokens Span} (h : s.tokens = t :: rest)
    {a : α} {r : Reader Span α} (hr : r s.tokens = .ok (a, rest)) (nested : Nat) :
    ServedAt nested (do advance; return a) r s := by
  have hboth := (servedAt_advance h nested).bind (f := fun _ => pure a) (g := fun _ => pure a) (fun _ => rfl)
    fun _ s' _ _ => .took rfl rfl (.refl nested s')
  refine hboth.congr rfl ?_
  rw [hr, h]
  rfl

theorem current_bind (f : Placed Span Token → Demand α) (s : Desk) :
    (current >>= f) s = f s.current s :=
  rfl

theorem sees_bind (mark : Symbol) (f : Bool → Demand α) (s : Desk) :
    (sees mark >>= f) s = f (s.current.value == .symbol mark) s :=
  rfl

theorem serves_tokenThat {meaning : Token → Option α} (hend : meaning .endOfInput = none)
    (expected : Expectation) :
    Serves patience nested (tokenThat meaning expected) (Reader.tokenThat meaning expected) := by
  refine ⟨rfl, fun s _ => ?_⟩
  cases hmeaning : meaning s.current.value with
  | none =>
    have hread : tokenThat meaning expected s = refuse expected s := by
      rw [tokenThat, current_bind, hmeaning]
    refine (servedAt_refuse nested expected s).congr hread (Reader.tokenThat_eq_error.2 ⟨rfl, ?_⟩)
    intro t ht
    obtain ⟨rest, htokens⟩ := List.head?_eq_some_iff.1 ht
    rwa [← (Desk.current_of_tokens htokens).1]
  | some a =>
    have hread : tokenThat meaning expected s =
        (do advance; return ⟨a, s.current.place⟩ : Demand (Placed Span α)) s := by
      rw [tokenThat, current_bind, hmeaning]
    obtain ⟨hvalue, -⟩ | ⟨-, htokens, -⟩ := s.tokens_cases
    · rw [hvalue, hend] at hmeaning
      cases hmeaning
    · refine (servedAt_taken htokens ?_ nested).congr hread rfl
      exact Reader.tokenThat_eq_ok.2 ⟨_, hmeaning, htokens⟩

theorem serves_symbol (s : Symbol) (expected : Expectation) :
    Serves patience nested (symbol s expected) (Reader.symbol s expected) :=
  (serves_tokenThat rfl expected).bind fun found => serves_pure found.place

theorem serves_name (expected : Expectation) :
    Serves patience nested (name expected) (Reader.name expected) :=
  serves_tokenThat rfl expected

theorem serves_sees (s : Symbol) : Serves patience nested (sees s) (Reader.sees s) := by
  refine ⟨rfl, fun desk _ => .took rfl ?_ (.refl nested desk)⟩
  rw [Reader.sees, desk.startsWith_tokens]

theorem serves_takes (s : Symbol) : Serves patience nested (takes s) (Reader.takes s) := by
  refine ⟨rfl, fun desk _ => ?_⟩
  have hstarts := desk.startsWith_tokens s
  cases hsees : desk.current.value == .symbol s with
  | true =>
    rw [hsees] at hstarts
    obtain ⟨p, rest, htokens⟩ := Reader.startsWith_eq_true.1 hstarts
    have hread : takes s desk = (do advance; return true : Demand Bool) desk := by
      rw [takes, sees_bind, hsees]
      rfl
    refine (servedAt_taken htokens ?_ nested).congr hread rfl
    exact Reader.takes_eq_ok.2 (.inl ⟨rfl, p, htokens⟩)
  | false =>
    rw [hsees] at hstarts
    have hread : takes s desk = (pure false : Demand Bool) desk := by
      rw [takes, sees_bind, hsees]
      rfl
    exact .took hread (Reader.takes_of_not_startsWith hstarts) (.refl nested desk)

/-! ### Repetition -/

theorem Serves.whileSeen {read : Demand α} {r : Reader Span α} (h : Serves patience nested read r)
    {more : Token → Bool} {moreThere : Tokens Span → Bool}
    (hmore : ∀ s : Desk, moreThere s.tokens = more s.current.value)
    (hprogress : ∀ {ts rest a}, r ts = .ok (a, rest) → rest.length < ts.length) :
    Serves patience nested (whileSeen more read patience) (Reader.whileSeen moreThere r) := by
  have hdrains : Drains (Reader.whileSeen moreThere r) [] := Reader.drains_whileSeen_nil h.drains
  -- with patience for each token in front of the desk, there is some left behind them
  have hrounds : ∀ (rounds : Nat) (s : Desk), s.tokens.length < rounds → s.tokens.length < patience →
      ServedAt nested (Demand.whileSeen more read rounds) (Reader.whileSeen moreThere r) s := by
    intro rounds
    induction rounds with
    | zero => exact fun s hs => absurd hs (Nat.not_lt_zero _)
    | succ rounds ih =>
      intro s hs hpatience
      have hseen := hmore s
      cases hmeets : more s.current.value with
      | false =>
        rw [hmeets] at hseen
        have hread : Demand.whileSeen more read (rounds + 1) s = (pure [] : Demand (List α)) s := by
          rw [Demand.whileSeen, current_bind, hmeets]
          rfl
        exact .took hread (Reader.whileSeen_of_not_more hseen) (.refl nested s)
      | true =>
        rw [hmeets] at hseen
        have hread : Demand.whileSeen more read (rounds + 1) s =
            (do let a ← read; let as ← Demand.whileSeen more read rounds; return a :: as :
              Demand (List α)) s := by
          rw [Demand.whileSeen, current_bind, hmeets]
          rfl
        refine ServedAt.congr ?_ hread (Reader.whileSeen_of_more hseen hprogress)
        refine (h.served s hpatience).bind (fun a => hdrains.bind fun as => rfl) fun a s' hr _ => ?_
        have hlt := hprogress hr
        refine (ih s' (by omega) (by omega)).bind (fun as => rfl) fun as s'' _ _ => ?_
        exact .took rfl rfl (.refl nested s'')
  exact ⟨hdrains, fun s hs => hrounds patience s hs hs⟩

theorem Serves.commaSeparated {read : Demand α} {r : Reader Span α} (h : Serves patience nested read r) :
    Serves patience nested (commaSeparated read patience) (Reader.commaSeparated r) := by
  have hdrains : Drains (Reader.commaSeparated r) [] := Reader.drains_commaSeparated h.drains
  have hrounds : ∀ (rounds : Nat) (s : Desk), s.tokens.length < rounds → s.tokens.length < patience →
      ServedAt nested (Demand.commaSeparated read rounds) (Reader.commaSeparated r) s := by
    intro rounds
    induction rounds with
    | zero => exact fun s hs => absurd hs (Nat.not_lt_zero _)
    | succ rounds ih =>
      intro s hs hpatience
      have hfirst := h.served s hpatience
      refine ServedAt.congr ?_ rfl (Reader.commaSeparated_of_le hfirst.length_le)
      refine hfirst.bind (fun a => rfl) fun a s' hr took => ?_
      have hle := took.length_le
      have htakes : ServedAt nested (takes .comma) (Reader.takes .comma) s' :=
        (serves_takes .comma).served s' (Nat.lt_of_le_of_lt hle hpatience)
      refine htakes.bind ?_ ?_
      · intro taken
        cases taken with
        | true => exact hdrains.bind fun as => rfl
        | false => rfl
      · intro taken behind htaken _
        cases taken with
        | false => exact .took rfl rfl (.refl nested behind)
        | true =>
          obtain ⟨p, hcomma⟩ : ∃ p, s'.tokens = ⟨.symbol .comma, p⟩ :: behind.tokens := by
            simpa using Reader.takes_eq_ok.1 htaken
          rw [hcomma, List.length_cons] at hle
          refine ServedAt.bind (ih behind (by omega) (by omega)) (fun as => rfl) fun as last _ _ => ?_
          exact .took rfl rfl (.refl nested last)
  exact ⟨hdrains, fun s hs => hrounds patience s hs hs⟩

/-- A type that is being read counts as one more inside the others, and is left again. -/
theorem Serves.activation {read : Demand α} {r : Reader Span α} (h : Serves patience nested read r) :
    Serves patience (nested + 1) (activation read) r := by
  refine ⟨h.drains, fun s hs => ?_⟩
  have hleft {s' : Desk} (hcosts : s.enter.Costs nested s') : s.Costs (nested + 1) s'.leave := by
    have hentered : s'.entered = s.entered + 1 := hcosts.entered
    have hdeepest : s'.leave.deepest ≤ max (max s.deepest (s.entered + 1)) (s.entered + 1 + nested) :=
      hcosts.deepest
    refine ⟨hcosts.le_pulls, hcosts.pulls_le, ?_, ?_⟩
    · rw [Desk.leave, hentered, Nat.add_sub_cancel]
    · omega
  cases h.served s.enter hs with
  | @took a s' here there took =>
    have hread : Demand.activation read s = some (.ok a, s'.leave) := by rw [Demand.activation, here]; rfl
    exact .took hread there ⟨hleft took.toCosts, took.kept, took.ending⟩
  | @rejected e s' here there costs =>
    have hread : Demand.activation read s = some (.error (e.toError s.ending), s'.leave) := by
      rw [Demand.activation, here]
      rfl
    exact .rejected hread there (hleft costs)
  | @faulty fault place s' here there ending costs =>
    have hread : Demand.activation read s = some (.error (.lexical fault place), s'.leave) := by
      rw [Demand.activation, here]
      rfl
    exact .faulty hread there ending (hleft costs)

/-! ### The grammar -/

theorem serves_literal : Serves patience nested literal Reader.literal :=
  (serves_tokenThat rfl .literal).bind fun found => serves_pure found.value

theorem serves_arguments : Serves patience nested (arguments patience) Reader.arguments := by
  refine (serves_takes .openParen).bind fun opened => .ite opened ?_ (serves_pure [])
  refine (serves_takes .closeParen).bind fun closed => .ite closed (serves_pure []) ?_
  refine serves_literal.commaSeparated.bind fun values => ?_
  exact (serves_symbol .closeParen .closeParen).bind fun _ => serves_pure values

theorem serves_annot : Serves patience nested (annot patience) Reader.annot :=
  (serves_symbol .atSign .atSign).bind fun _ => (serves_name .annotationName).bind fun _ =>
    serves_arguments.bind fun _ => serves_pure _

theorem serves_annotations : Serves patience nested (annotations patience) Reader.annotations :=
  serves_annot.whileSeen (fun s => s.startsWith_tokens .atSign) Reader.annot_progress

theorem serves_arrayMark : Serves patience nested arrayMark Reader.arrayMark := by
  refine (serves_takes .openBracket).bind fun opened => .ite opened ?_ (serves_pure false)
  exact (serves_symbol .closeBracket .closeBracket).bind fun _ => serves_pure true

theorem serves_typeWith {inBrackets : Demand (List (TypeRef Span))}
    {inBracketsThere : Reader Span (List (TypeRef Span))}
    (h : Serves patience nested inBrackets inBracketsThere) :
    Serves patience nested (typeWith inBrackets) (Reader.typeWith inBracketsThere) := by
  have harguments : Serves patience nested (typeArguments inBrackets) (Reader.typeArguments inBracketsThere) :=
    (serves_sees .openAngle).bind fun opened => .ite opened h (serves_pure [])
  exact (serves_name .type).bind fun _ => harguments.bind fun _ => serves_arrayMark.bind fun _ =>
    (serves_takes .question).bind fun _ => serves_pure _

/-- A type inside so many angle brackets reads the types inside it, if it may be entered for each bracket that
may still open, and once for itself. -/
theorem serves_type {levels depth activations : Nat} (hdepth : depth + levels = maxTypeDepth)
    (hlevels : levels < activations) :
    Serves patience (levels + 1) (type patience activations depth) (Reader.type levels) := by
  induction levels generalizing depth activations with
  | zero =>
    obtain ⟨activations, rfl⟩ := Nat.exists_eq_add_of_lt hlevels
    have hfull : maxTypeDepth ≤ depth := by omega
    rw [Nat.zero_add, Demand.type, if_pos hfull]
    exact (serves_typeWith (serves_refuse .shallowerType)).activation
  | succ levels ih =>
    obtain ⟨activations, rfl⟩ := Nat.exists_eq_add_of_lt hlevels
    have hopen : ¬ maxTypeDepth ≤ depth := by omega
    have hinner : Serves patience (levels + 1) (type patience (levels + 1 + activations) (depth + 1))
        (Reader.type levels) := ih (by omega) (by omega)
    rw [Demand.type, if_neg hopen]
    refine (serves_typeWith ?_).activation
    exact (serves_takes .openAngle).bind fun _ => hinner.commaSeparated.bind fun types =>
      (serves_symbol .closeAngle .closeAngle).bind fun _ => serves_pure types

theorem serves_separator : Serves patience nested separator Reader.separator := by
  refine (serves_takes .semicolon).bind fun divided => .ite divided (serves_pure ()) ?_
  exact (serves_takes .comma).bind fun _ => serves_pure ()

variable {activations : Nat}

theorem serves_field (h : maxTypeDepth < activations) :
    Serves patience (maxTypeDepth + 1) (field patience activations) Reader.field :=
  serves_annotations.bind fun _ => (serves_name .fieldName).bind fun _ =>
    (serves_symbol .colon .colon).bind fun _ => (serves_type (Nat.zero_add _) h).bind fun _ =>
      serves_annotations.bind fun _ => serves_separator.bind fun _ => serves_pure _

theorem serves_nextField (h : maxTypeDepth < activations) :
    Serves patience (maxTypeDepth + 1) (nextField patience activations) Reader.nextField := by
  refine ⟨rfl, fun s hs => ?_⟩
  obtain ⟨hend, htokens, -⟩ | ⟨hne, htokens, -⟩ := s.tokens_cases
  · have hread : nextField patience activations s = refuse .fieldOrCloseBrace s := by
      rw [nextField, current_bind, if_pos hend]
    exact (servedAt_refuse _ .fieldOrCloseBrace s).congr hread (by rw [htokens]; rfl)
  · have hread : nextField patience activations s = field patience activations s := by
      rw [nextField, current_bind, if_neg hne]
    exact ((serves_field h).served s hs).congr hread (by rw [htokens]; rfl)

theorem serves_fields (h : maxTypeDepth < activations) :
    Serves patience (maxTypeDepth + 1) (fields patience activations) Reader.fields := by
  have hmore (s : Desk) : (!startsWith .closeBrace s.tokens) = (s.current.value != .symbol .closeBrace) := by
    rw [s.startsWith_tokens]
    rfl
  exact ((serves_nextField h).whileSeen hmore Reader.nextField_progress).bind fun fields =>
    (serves_symbol .closeBrace .fieldOrCloseBrace).bind fun _ => serves_pure fields

theorem serves_logicalName : Serves patience nested logicalName Reader.logicalName := by
  refine ⟨rfl, fun s hs => ?_⟩
  have hexpected : Reader.logicalNameExpected s.tokens = logicalNameExpected s.current.value := by
    obtain ⟨hend, htokens, -⟩ | ⟨-, htokens, -⟩ := s.tokens_cases
    · rw [htokens, hend]
      rfl
    · rw [htokens]
      generalize s.current = t
      obtain ⟨value, place⟩ := t
      cases value <;> rfl
  have htaken : Serves patience nested
      (do let found ← tokenThat Reader.logicalNameOf? (logicalNameExpected s.current.value); return found.value)
      (do
        let found ← Reader.tokenThat Reader.logicalNameOf? (logicalNameExpected s.current.value)
        return found.value) :=
    (serves_tokenThat rfl _).bind fun found => serves_pure found.value
  refine (htaken.served s hs).congr (by rw [logicalName, current_bind]) ?_
  simp only [Reader.logicalName, hexpected, bind, Except.bind]
  cases Reader.tokenThat Reader.logicalNameOf? (logicalNameExpected s.current.value) s.tokens <;> rfl

theorem serves_nameClause (otherwise : String) :
    Serves patience nested (nameClause otherwise) (Reader.nameClause otherwise) := by
  refine ⟨rfl, fun s hs => ?_⟩
  by_cases has : s.current.value = .keyword .as
  · have hread : nameClause otherwise s = (do advance; logicalName : Demand String) s := by
      rw [nameClause, current_bind, if_pos has]
    obtain ⟨hend, -⟩ | ⟨-, htokens, -⟩ := s.tokens_cases
    · rw [hend] at has
      cases has
    · have hboth := (servedAt_advance htokens nested).bind (f := fun _ => logicalName)
        (g := fun _ => Reader.logicalName) (fun _ => rfl) fun _ s' _ took =>
          serves_logicalName.served s' (Nat.lt_of_le_of_lt took.length_le hs)
      have hcurrent : s.current = ⟨.keyword .as, s.current.place⟩ := by rw [← has]
      refine hboth.congr hread ?_
      rw [htokens, hcurrent]
      rfl
  · have hread : nameClause otherwise s = (pure otherwise : Demand String) s := by
      rw [nameClause, current_bind, if_neg has]
    refine .took hread (Reader.nameClause_of_not_as otherwise ?_) (.refl nested s)
    intro h
    obtain ⟨p, rest, htokens⟩ := h
    exact has (congrArg Placed.value (Desk.current_of_tokens htokens).1)

theorem serves_declaration (h : maxTypeDepth < activations) :
    Serves patience (maxTypeDepth + 1) (declaration patience activations) Reader.declaration :=
  serves_annotations.bind fun _ => (serves_tokenThat rfl _).bind fun _ =>
    (serves_name .declarationName).bind fun _ => (serves_nameClause _).bind fun _ =>
      (serves_symbol .openBrace .openBrace).bind fun _ => (serves_fields h).bind fun _ => serves_pure _

theorem serves_declarations (h : maxTypeDepth < activations) :
    Serves patience (maxTypeDepth + 1)
      (whileSeen (· != .endOfInput) (declaration patience activations) patience) Reader.declarations := by
  have hmore (s : Desk) : (!s.tokens.isEmpty) = (s.current.value != .endOfInput) := by
    rw [s.isEmpty_tokens]
    rfl
  exact (serves_declaration h).whileSeen hmore Reader.declaration_progress

/-! ### A whole source -/

/-- Declarations that are read on demand are what the tokens in front of the desk are parsed as. -/
theorem declarations_eq_ofStream (h : maxTypeDepth < activations) {s : Desk}
    (hs : s.tokens.length < patience) :
    ∃ s', (do
        let declarations ← whileSeen (· != .endOfInput) (declaration patience activations) patience
        return (⟨declarations⟩ : Schema Span) : Demand (Schema Span)) s =
          some (Schema.ofStream ⟨s.tokens, s.ending⟩, s') ∧
      s.Costs (maxTypeDepth + 1) s' := by
  cases (serves_declarations h).served s hs with
  | @took declarations s' here there took =>
    -- no tokens are left, so the desk holds the end of the input
    have hrest := Reader.declarations_exhaustive there
    obtain ⟨-, -, hending⟩ | ⟨-, htokens, -⟩ := s'.tokens_cases
    · refine ⟨s', ?_, took.toCosts⟩
      rw [bind_of_ok here, ← took.ending, hending, Schema.ofStream, there]
      rfl
    · rw [hrest] at htokens
      cases htokens
  | @rejected e s' here there costs =>
    refine ⟨s', ?_, costs⟩
    rw [bind_of_error here, Schema.ofStream, there]
  | @faulty fault place s' here there ending costs =>
    refine ⟨s', ?_, costs⟩
    rw [bind_of_error here, Schema.ofStream, ending]
    obtain ⟨declarations, hok⟩ | ⟨expected, herror⟩ := there.cases
    · rw [hok]
    · rw [herror]
      rfl

/-- A source is read on demand without giving up, as what it is parsed as. This takes one step of the cursor
more than there are tokens, at most, and types are entered inside each other once more than brackets may open. -/
theorem schema_eq_parse (source : String) (hpatience : source.length < patience)
    (h : maxTypeDepth < activations) :
    ∃ s, schema patience activations (.ofSource source) = some (Schema.parse source, s) ∧
      s.pulls ≤ source.length + 1 ∧ s.deepest ≤ maxTypeDepth + 1 := by
  have htokens : (Cursor.ofSource source).stream.1.tokens.length ≤ source.length :=
    Nat.le_trans (Cursor.length_tokens_le _) (Nat.le_of_eq String.length_toList)
  cases hvalue : (Cursor.ofSource source).lexeme.value with
  | error fault =>
    obtain ⟨place, s, hadvance, hstream, hpulls, -, hdeepest⟩ :=
      advance_of_fault (s := .ofSource source) hvalue
    have hparse : Schema.parse source = .error (.lexical fault place) := by
      have hnone : Reader.declarations ([] : Tokens Span) = .ok ([], []) := Reader.whileSeen_of_not_more rfl
      calc Schema.parse source = Schema.ofStream ⟨[], .faulty fault place⟩ := congrArg Schema.ofStream hstream
        _ = .error (.lexical fault place) := by rw [Schema.ofStream, hnone]
    refine ⟨s, ?_, ?_, ?_⟩
    · rw [schema, bind_of_error hadvance, hparse]
    · rw [hpulls]
      exact Nat.le_add_left _ _
    · rw [hdeepest]
      exact Nat.zero_le _
  | ok t =>
    obtain ⟨s, hadvance, hrest, hending, hpulls, hentered, hdeepest⟩ :=
      advance_of_ok (s := .ofSource source) hvalue
    have hparse : Schema.ofStream ⟨s.tokens, s.ending⟩ = Schema.parse source := by
      rw [hrest, hending]
      rfl
    have hlength : s.tokens.length ≤ source.length := by
      rw [hrest]
      exact htokens
    obtain ⟨s', hread, hcosts⟩ := declarations_eq_ofStream h (Nat.lt_of_le_of_lt hlength hpatience)
    refine ⟨s', ?_, ?_, ?_⟩
    · rw [schema, bind_of_ok hadvance, hread, hparse]
    · have hsteps := hcosts.pulls_le
      rw [hpulls] at hsteps
      simp only [Desk.ofSource] at hsteps
      omega
    · have hinside := hcosts.deepest
      rw [hdeepest, hentered] at hinside
      simpa [Desk.ofSource] using hinside

example : ((schema 18 65 (.ofSource "model A\x7bx:B<C<D>>\x7d")).map fun p => (p.2.pulls, p.2.deepest)) =
    some (14, 3) := by
  cbv

end Demand

/-- Reading ends, whatever the source. However it has been read so far, by any requests and on behind faults,
each step goes forward or has come to the end of the source for good, and the end is found after no more steps
than characters are left. Reading it as a schema on demand comes to what it is parsed as, without giving up:
patience for one token more than there are characters is enough for every loop, and so is more of it. That takes
no more steps than characters and one, and never reads more than 65 types inside each other. -/
theorem Schema.reading_ends (source : String) :
    (∀ requests, (((Cursor.ofSource source).run requests).2).ComesToEnd source) ∧
    ∀ patience activations, ∃ s,
      Demand.schema (source.length + 1 + patience) (65 + activations) (.ofSource source) =
          some (Schema.parse source, s) ∧
        s.pulls ≤ source.length + 1 ∧ s.deepest ≤ 65 := by
  refine ⟨Cursor.run_comesToEnd source, fun patience activations => ?_⟩
  refine Demand.schema_eq_parse source ?_ ?_
  · omega
  · rw [maxTypeDepth]
    omega

end ModelIdl
