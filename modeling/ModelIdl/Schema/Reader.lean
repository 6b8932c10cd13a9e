import ModelIdl.Schema.ParseError

/-!
# ModelIdl.Schema.Reader

Reading structured things from the front of a list of tokens. Design points:

* **A rejection** says what was expected, and keeps the tokens from the offending one on. With no tokens
  left it is a rejection of the end of the stream, whose place and cause the stream knows.
* **One token of lookahead.** A reader looks at the next token only, and never gives back a token that
  it took.
* **Repetition** goes on only if something was taken, so it ends. Every reader of this library that is
  repeated does take something.
-/

namespace ModelIdl

/-- Tokens yet to be read. -/
abbrev Tokens (σ : Type) := List (Placed σ Token)

/-- A refusal: what was expected, and the tokens from the offending one on. -/
structure Rejection (σ : Type) where
  expected : Expectation
  remaining : Tokens σ
deriving DecidableEq

/-- A way to read something from the front of the tokens: it gives a value and the tokens left, or
refuses. -/
def Reader (σ α : Type) := Tokens σ → Except (Rejection σ) (α × Tokens σ)

namespace Reader

variable {σ α β : Type}

/-! ### One after the other -/

instance : Monad (Reader σ) where
  pure a := fun ts => .ok (a, ts)
  bind read f := fun ts =>
    match read ts with
    | .error e => .error e
    | .ok (a, rest) => f a rest

@[simp] theorem pure_apply (a : α) (ts : Tokens σ) : (pure a : Reader σ α) ts = .ok (a, ts) := rfl

/-- A sequence succeeds if its first part does and the second succeeds behind it. -/
theorem bind_eq_ok {read : Reader σ α} {f : α → Reader σ β} {ts left : Tokens σ} {b : β} :
    (read >>= f) ts = .ok (b, left) ↔ ∃ a rest, read ts = .ok (a, rest) ∧ f a rest = .ok (b, left) := by
  simp only [bind]
  cases read ts with
  | error e => simp
  | ok p =>
    constructor
    · intro h
      exact ⟨p.1, p.2, rfl, h⟩
    · rintro ⟨a, rest, hp, h⟩
      cases hp
      exact h

/-- A sequence refuses if its first part does, or the second behind it. -/
theorem bind_eq_error {read : Reader σ α} {f : α → Reader σ β} {ts : Tokens σ} {e : Rejection σ} :
    (read >>= f) ts = .error e ↔
      read ts = .error e ∨ ∃ a rest, read ts = .ok (a, rest) ∧ f a rest = .error e := by
  simp only [bind]
  cases read ts with
  | error e => simp
  | ok p =>
    constructor
    · intro h
      exact .inr ⟨p.1, p.2, rfl, h⟩
    · rintro (h | ⟨a, rest, hp, h⟩)
      · cases h
      · cases hp
        exact h

/-- What is made of what was read is no reason to refuse it. -/
theorem bind_pure_eq_error {read : Reader σ α} {f : α → β} {ts : Tokens σ} {e : Rejection σ} :
    (read >>= fun a => pure (f a)) ts = .error e ↔ read ts = .error e := by
  rw [bind_eq_error, or_iff_left]
  rintro ⟨a, rest, -, h⟩
  cases h

/-! ### Single tokens -/

/-- Refuses the next token. -/
def reject (expected : Expectation) : Reader σ α := fun ts =>
  .error ⟨expected, ts⟩

/-- Is a given symbol the first token? -/
def startsWith (s : Symbol) : Tokens σ → Bool
  | ⟨.symbol t, _⟩ :: _ => t == s
  | _ => false

/-- Takes the next token and what it means, if it means something here. -/
def tokenThat (meaning : Token → Option α) (expected : Expectation) : Reader σ (Placed σ α)
  | [] => .error ⟨expected, []⟩
  | t :: rest =>
    match meaning t.value with
    | some a => .ok (⟨a, t.place⟩, rest)
    | none => .error ⟨expected, t :: rest⟩

/-- Takes a given symbol, and says where it was. -/
def symbol (s : Symbol) (expected : Expectation) : Reader σ σ := do
  let found ← tokenThat (fun t => if t = .symbol s then some () else none) expected
  return found.place

/-- Takes a name that is no keyword. -/
def name (expected : Expectation) : Reader σ (Placed σ String) :=
  tokenThat (fun t => match t with
    | .name text => some text
    | _ => none) expected

/-- Is a given symbol the next token? It is not taken. -/
def sees (s : Symbol) : Reader σ Bool := fun ts =>
  .ok (startsWith s ts, ts)

/-- Takes a given symbol if it is the next token, and says whether it did. -/
def takes (s : Symbol) : Reader σ Bool := fun ts =>
  if startsWith s ts then .ok (true, ts.tail) else .ok (false, ts)

/-- A sequence goes on behind its first part. -/
theorem bind_of_ok {read : Reader σ α} {f : α → Reader σ β} {ts rest : Tokens σ} {a : α}
    (h : read ts = .ok (a, rest)) : (read >>= f) ts = f a rest := by
  simp [bind, h]

/-- A given symbol is first exactly if the tokens are that symbol, somewhere, and others. -/
theorem startsWith_eq_true {s : Symbol} {ts : Tokens σ} :
    startsWith s ts = true ↔ ∃ p rest, ts = ⟨.symbol s, p⟩ :: rest := by
  unfold startsWith
  split
  · simp
  · rename_i hne
    constructor
    · intro h
      simp at h
    · rintro ⟨p, rest, rfl⟩
      exact absurd rfl (hne s p rest)

@[simp] theorem startsWith_nil (s : Symbol) : startsWith s ([] : Tokens σ) = false := rfl

@[simp] theorem startsWith_symbol (s t : Symbol) (p : σ) (rest : Tokens σ) :
    startsWith s (⟨.symbol t, p⟩ :: rest) = (t == s) := rfl

@[simp] theorem startsWith_name (s : Symbol) (n : String) (p : σ) (rest : Tokens σ) :
    startsWith s (⟨.name n, p⟩ :: rest) = false := rfl

@[simp] theorem startsWith_keyword (s : Symbol) (k : Keyword) (p : σ) (rest : Tokens σ) :
    startsWith s (⟨.keyword k, p⟩ :: rest) = false := rfl

/-- A token is taken for what it means. -/
theorem tokenThat_eq_ok {meaning : Token → Option α} {expected : Expectation} {ts rest : Tokens σ}
    {a : Placed σ α} :
    tokenThat meaning expected ts = .ok (a, rest) ↔
      ∃ t, meaning t = some a.value ∧ ts = ⟨t, a.place⟩ :: rest := by
  cases ts with
  | nil => simp [tokenThat]
  | cons t left =>
    obtain ⟨value, place⟩ := t
    simp only [tokenThat]
    cases hmeaning : meaning value with
    | none =>
      simp only [reduceCtorEq, false_iff, not_exists, not_and]
      rintro t ht ⟨⟩
      simp [hmeaning] at ht
    | some b =>
      constructor
      · rintro ⟨⟩
        exact ⟨value, hmeaning, rfl⟩
      · rintro ⟨t, ht, ⟨⟩⟩
        obtain rfl : b = a.value := by simpa [hmeaning] using ht
        rfl

/-- A token is refused if it means nothing here, or if there is none. -/
theorem tokenThat_eq_error {meaning : Token → Option α} {expected : Expectation} {ts : Tokens σ}
    {e : Rejection σ} :
    tokenThat meaning expected ts = .error e ↔
      e = ⟨expected, ts⟩ ∧ ∀ t ∈ ts.head?, meaning t.value = none := by
  cases ts with
  | nil => simp [tokenThat, eq_comm]
  | cons t rest =>
    simp only [tokenThat, List.head?_cons, Option.mem_def, Option.some.injEq, forall_eq']
    cases hmeaning : meaning t.value with
    | none => simp [eq_comm]
    | some a => simp

/-- A symbol is taken exactly if it is first. -/
theorem symbol_eq_ok {s : Symbol} {expected : Expectation} {ts rest : Tokens σ} {p : σ} :
    symbol s expected ts = .ok (p, rest) ↔ ts = ⟨.symbol s, p⟩ :: rest := by
  simp only [symbol, bind_eq_ok, tokenThat_eq_ok, pure_apply]
  constructor
  · rintro ⟨found, left, ⟨t, ht, rfl⟩, ⟨⟩⟩
    obtain rfl : t = .symbol s := by simpa using ht
    rfl
  · rintro rfl
    exact ⟨⟨(), p⟩, rest, ⟨.symbol s, by simp, rfl⟩, rfl⟩

/-- A symbol is refused exactly if it is not first. -/
theorem symbol_eq_error {s : Symbol} {expected : Expectation} {ts : Tokens σ} {e : Rejection σ} :
    symbol s expected ts = .error e ↔ e = ⟨expected, ts⟩ ∧ startsWith s ts = false := by
  simp only [symbol, bind_eq_error, tokenThat_eq_error, pure_apply, reduceCtorEq, and_false,
    exists_false, or_false]
  refine and_congr_right fun _ => ?_
  rw [← Bool.not_eq_true, startsWith_eq_true]
  cases ts with
  | nil => simp
  | cons t rest =>
    obtain ⟨value, place⟩ := t
    simp

/-- A name is taken exactly if it is first. -/
theorem name_eq_ok {expected : Expectation} {ts rest : Tokens σ} {n : Placed σ String} :
    name expected ts = .ok (n, rest) ↔ ts = ⟨.name n.value, n.place⟩ :: rest := by
  rw [name, tokenThat_eq_ok]
  constructor
  · rintro ⟨t, ht, rfl⟩
    split at ht
    · obtain rfl := Option.some.inj ht
      rfl
    · simp at ht
  · rintro rfl
    exact ⟨_, rfl, rfl⟩

/-- A symbol that may be missing is taken if it is first, and nothing is taken otherwise. -/
theorem takes_eq_ok {s : Symbol} {ts rest : Tokens σ} {taken : Bool} :
    takes s ts = .ok (taken, rest) ↔
      (taken = true ∧ ∃ p, ts = ⟨.symbol s, p⟩ :: rest) ∨
        (taken = false ∧ ts = rest ∧ startsWith s rest = false) := by
  unfold takes
  cases h : startsWith s ts with
  | true =>
    obtain ⟨p, left, rfl⟩ := startsWith_eq_true.1 h
    constructor
    · rintro ⟨⟩
      exact .inl ⟨rfl, p, rfl⟩
    · rintro (⟨rfl, q, ⟨⟩⟩ | ⟨-, rfl, hnot⟩)
      · rfl
      · simp at hnot
  | false =>
    constructor
    · rintro ⟨⟩
      exact .inr ⟨rfl, rfl, h⟩
    · rintro (⟨-, p, rfl⟩ | ⟨rfl, rfl, -⟩)
      · simp at h
      · rfl

theorem takes_of_not_startsWith {s : Symbol} {ts : Tokens σ} (h : startsWith s ts = false) :
    takes s ts = .ok (false, ts) := by
  simp [takes, h]

/-! ### Repetition -/

/-- Reads again and again, as long as the tokens say so. -/
def whileSeen (more : Tokens σ → Bool) (read : Reader σ α) : Reader σ (List α) := fun ts =>
  if more ts then
    match read ts with
    | .error e => .error e
    | .ok (a, rest) =>
      if rest.length < ts.length then
        match whileSeen more read rest with
        | .error e => .error e
        | .ok (as, left) => .ok (a :: as, left)
      else .ok ([a], rest)
  else .ok ([], ts)
termination_by ts => ts.length

/-- Reads once, and once more behind each comma. -/
def commaSeparated (read : Reader σ α) : Reader σ (List α) := fun ts =>
  match read ts with
  | .error e => .error e
  | .ok (a, rest) =>
    if startsWith .comma rest ∧ rest.tail.length < ts.length then
      match commaSeparated read rest.tail with
      | .error e => .error e
      | .ok (as, left) => .ok (a :: as, left)
    else .ok ([a], rest)
termination_by ts => ts.length
decreasing_by exact (‹_ ∧ _›).2

theorem whileSeen_of_ok {more : Tokens σ → Bool} {read : Reader σ α} {ts rest left : Tokens σ} {a : α}
    {as : List α} (hmore : more ts = true) (hread : read ts = .ok (a, rest))
    (hlt : rest.length < ts.length) (hrest : whileSeen more read rest = .ok (as, left)) :
    whileSeen more read ts = .ok (a :: as, left) := by
  rw [whileSeen, if_pos hmore, hread]
  simp only [hlt, if_true, hrest]

theorem whileSeen_of_error {more : Tokens σ → Bool} {read : Reader σ α} {ts rest : Tokens σ} {a : α}
    {e : Rejection σ} (hmore : more ts = true) (hread : read ts = .ok (a, rest))
    (hlt : rest.length < ts.length) (hrest : whileSeen more read rest = .error e) :
    whileSeen more read ts = .error e := by
  rw [whileSeen, if_pos hmore, hread]
  simp only [hlt, if_true, hrest]

theorem whileSeen_of_refusal {more : Tokens σ → Bool} {read : Reader σ α} {ts : Tokens σ}
    {e : Rejection σ} (hmore : more ts = true) (hread : read ts = .error e) :
    whileSeen more read ts = .error e := by
  rw [whileSeen, if_pos hmore, hread]

theorem whileSeen_of_not_more {more : Tokens σ → Bool} {read : Reader σ α} {ts : Tokens σ}
    (hmore : more ts = false) : whileSeen more read ts = .ok ([], ts) := by
  rw [whileSeen, hmore]
  rfl

theorem commaSeparated_of_last {read : Reader σ α} {ts rest : Tokens σ} {a : α}
    (hread : read ts = .ok (a, rest)) (hcomma : startsWith .comma rest = false) :
    commaSeparated read ts = .ok ([a], rest) := by
  rw [commaSeparated, hread]
  simp [hcomma]

theorem commaSeparated_of_refusal {read : Reader σ α} {ts : Tokens σ} {e : Rejection σ}
    (hread : read ts = .error e) : commaSeparated read ts = .error e := by
  rw [commaSeparated, hread]

theorem commaSeparated_of_comma {read : Reader σ α} {front rest : Tokens σ} {p : σ} {a : α}
    (hread : read (front ++ ⟨.symbol .comma, p⟩ :: rest) = .ok (a, ⟨.symbol .comma, p⟩ :: rest)) :
    commaSeparated read (front ++ ⟨.symbol .comma, p⟩ :: rest) =
      match commaSeparated read rest with
      | .error e => .error e
      | .ok (as, left) => .ok (a :: as, left) := by
  have hlt : rest.length < (front ++ ⟨.symbol .comma, p⟩ :: rest).length := by
    simp only [List.length_append, List.length_cons]
    omega
  rw [commaSeparated, hread]
  exact if_pos ⟨rfl, hlt⟩

end Reader

end ModelIdl
