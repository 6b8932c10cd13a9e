import ModelIdl.Proofs.Schema.Soundness

/-!
# ModelIdl.Proofs.Schema.Nesting

What stands in front of a refused token. Two refusals are about more than the kind of token, and both
show in the tokens that were taken:

* **Nesting.** A reader that may open so many angle brackets inside each other never has more of them
  open, and it refuses one for its depth exactly behind a name where that many are open
  (`Sited.deepest`).
* **Empty names.** The empty string is refused as such exactly behind `as` (`Sited.unnamed`).

Each reader is followed from its start (`Reader.Traced`). What it gives a value for is *rounded*: it
closes what it opens and asks for nothing more, so what is refused behind it is refused for what came
later (`Rounded.append_sited`).
-/

namespace ModelIdl

open Grammar

namespace Reader

variable {σ α β : Type}

/-! ### The tokens in front -/

/-- How often a symbol is among the tokens. -/
def occurrences (s : Symbol) (w : Tokens σ) : Nat :=
  (w.map (·.value)).count (.symbol s)

/-- What the last of the tokens is. -/
def last? (w : Tokens σ) : Option Token :=
  w.getLast?.map (·.value)

/-- Is the last of the tokens a name? -/
def EndsInName (w : Tokens σ) : Prop :=
  ∃ name, last? w = some (.name name)

/-- At no point of the tokens are more angle brackets open than said. -/
def Shallow (levels : Nat) (w : Tokens σ) : Prop :=
  ∀ v, v <+: w → occurrences .openAngle v ≤ occurrences .closeAngle v + levels

/-- The tokens close what they open, and the last of them does not ask for a name. At the last level
they do not stop between a name and a bracket. -/
structure Rounded (levels : Nat) (w rest : Tokens σ) : Prop where
  shallow : Shallow levels w
  balanced : occurrences .openAngle w = occurrences .closeAngle w
  named : last? w ≠ some (.keyword .as)
  shut : levels = 0 → EndsInName w → startsWith .openAngle rest = false

/-- What is refused behind the tokens is refused for its depth or as an empty name exactly where it
should be. -/
structure Sited (levels : Nat) (w : Tokens σ) (e : Rejection σ) : Prop where
  deepest : e.expected = .shallowerType ↔ EndsInName w ∧ startsWith .openAngle e.remaining = true ∧
    occurrences .openAngle w = occurrences .closeAngle w + levels
  unnamed : e.expected = .nonEmptyLogicalName ↔ last? w = some (.keyword .as) ∧
    e.remaining.head?.map (·.value) = some (.string "")

@[simp] theorem occurrences_nil (s : Symbol) : occurrences s ([] : Tokens σ) = 0 := rfl

@[simp] theorem occurrences_append (s : Symbol) (u w : Tokens σ) :
    occurrences s (u ++ w) = occurrences s u + occurrences s w := by
  simp [occurrences]

@[simp] theorem occurrences_cons (s : Symbol) (t : Placed σ Token) (w : Tokens σ) :
    occurrences s (t :: w) = occurrences s w + if t.value = .symbol s then 1 else 0 := by
  simp [occurrences, List.count_cons]

@[simp] theorem last?_nil : last? ([] : Tokens σ) = none := rfl

@[simp] theorem last?_singleton (t : Placed σ Token) : last? [t] = some t.value := rfl

/-- Tokens behind others have the last word, if there are any. -/
theorem last?_append (u : Tokens σ) {w : Tokens σ} (h : w ≠ []) : last? (u ++ w) = last? w := by
  rw [last?, last?, List.getLast?_append, List.getLast?_eq_some_getLast h]
  rfl

theorem endsInName_append (u : Tokens σ) {w : Tokens σ} (h : w ≠ []) :
    EndsInName (u ++ w) ↔ EndsInName w := by
  rw [EndsInName, EndsInName, last?_append u h]

theorem not_endsInName_nil : ¬ EndsInName ([] : Tokens σ) := by
  intro h
  obtain ⟨name, hname⟩ := h
  cases hname

theorem prefix_append_cases {u v w : Tokens σ} (h : v <+: u ++ w) :
    v <+: u ∨ ∃ v', v = u ++ v' ∧ v' <+: w := by
  obtain ⟨x, hx⟩ := h
  rcases List.append_eq_append_iff.1 hx with ⟨y, hu, -⟩ | ⟨y, hv, hw⟩
  · exact .inl ⟨y, hu.symm⟩
  · exact .inr ⟨y, hv, x, hw.symm⟩

/-! ### One after the other -/

theorem shallow_nil (levels : Nat) : Shallow levels ([] : Tokens σ) := by
  intro v hv
  obtain rfl := List.prefix_nil.1 hv
  exact Nat.zero_le _

theorem Shallow.append {levels : Nat} {u w : Tokens σ} (hu : Shallow levels u)
    (hbalanced : occurrences .openAngle u = occurrences .closeAngle u) (hw : Shallow levels w) :
    Shallow levels (u ++ w) := by
  intro v hv
  rcases prefix_append_cases hv with hfront | ⟨v', rfl, hbehind⟩
  · exact hu v hfront
  · have := hw v' hbehind
    rw [occurrences_append, occurrences_append]
    omega

/-- A bracket in front adds a level. -/
theorem Shallow.bracket {levels : Nat} {w : Tokens σ} (h : Shallow levels w) (p : σ) :
    Shallow (levels + 1) (⟨.symbol .openAngle, p⟩ :: w) := by
  intro v hv
  cases v with
  | nil => exact Nat.zero_le _
  | cons t v =>
    obtain ⟨rfl, hbehind⟩ := List.cons_prefix_cons.1 hv
    have := h v hbehind
    have hopen : occurrences .openAngle (⟨.symbol .openAngle, p⟩ :: v) =
        occurrences .openAngle v + 1 := by simp
    have hclose : occurrences .closeAngle (⟨.symbol .openAngle, p⟩ :: v) =
        occurrences .closeAngle v := by simp
    omega

theorem rounded_nil (levels : Nat) (rest : Tokens σ) : Rounded levels [] rest where
  shallow := shallow_nil levels
  balanced := rfl
  named := by simp
  shut := fun _ h => absurd h not_endsInName_nil

theorem Rounded.append {levels : Nat} {u w rest : Tokens σ} (hu : Rounded levels u (w ++ rest))
    (hw : Rounded levels w rest) : Rounded levels (u ++ w) rest := by
  by_cases hne : w = []
  · subst hne
    rwa [List.append_nil]
  · constructor
    · exact hu.shallow.append hu.balanced hw.shallow
    · rw [occurrences_append, occurrences_append, hu.balanced, hw.balanced]
    · rw [last?_append u hne]
      exact hw.named
    · rw [endsInName_append u hne]
      exact hw.shut

/-- A refusal right behind rounded tokens is about the kind of token only. -/
theorem Rounded.sited {levels : Nat} {w : Tokens σ} {e : Rejection σ} (h : Rounded levels w e.remaining)
    (hdeep : e.expected ≠ .shallowerType) (hname : e.expected ≠ .nonEmptyLogicalName) :
    Sited levels w e where
  deepest := by
    refine iff_of_false hdeep fun hfull => ?_
    obtain ⟨hends, hopen, hcount⟩ := hfull
    have hbalanced := h.balanced
    -- nothing is open behind rounded tokens, so this would be the last level
    have hshut := h.shut (by omega) hends
    rw [hopen] at hshut
    cases hshut
  unnamed := iff_of_false hname fun hfound => h.named hfound.1

/-- Behind rounded tokens, a refusal is about the tokens that came after them. -/
theorem Rounded.append_sited {levels : Nat} {u w : Tokens σ} {e : Rejection σ}
    (hu : Rounded levels u (w ++ e.remaining)) (hw : Sited levels w e) : Sited levels (u ++ w) e := by
  by_cases hne : w = []
  · subst hne
    rw [List.append_nil]
    refine Rounded.sited hu ?_ ?_
    · intro hdeep
      exact not_endsInName_nil (hw.deepest.1 hdeep).1
    · intro hname
      cases (hw.unnamed.1 hname).1
  · have hbalanced := hu.balanced
    have hcount : occurrences .openAngle (u ++ w) = occurrences .closeAngle (u ++ w) + levels ↔
        occurrences .openAngle w = occurrences .closeAngle w + levels := by
      rw [occurrences_append, occurrences_append]
      omega
    refine ⟨?_, ?_⟩
    · rw [hw.deepest, endsInName_append u hne, hcount]
    · rw [hw.unnamed, last?_append u hne]

/-- Is the token about no nesting and no logical name? At the last level a name is. -/
structure Plain (levels : Nat) (t : Token) : Prop where
  open_ne : t ≠ .symbol .openAngle
  close_ne : t ≠ .symbol .closeAngle
  as_ne : t ≠ .keyword .as
  name_ne : levels = 0 → ∀ name, t ≠ .name name

/-- A symbol that opens and closes no nesting is plain. -/
theorem plain_symbol {levels : Nat} {s : Symbol} (hopen : s ≠ .openAngle) (hclose : s ≠ .closeAngle) :
    Plain levels (.symbol s) :=
  ⟨by simpa using hopen, by simpa using hclose, by simp, by simp⟩

theorem shallow_singleton (levels : Nat) {t : Placed σ Token} (h : t.value ≠ .symbol .openAngle) :
    Shallow levels [t] := by
  intro v hv
  have hnone : occurrences .openAngle v ≤ occurrences .openAngle [t] :=
    (hv.sublist.map _).count_le _
  simp only [occurrences_cons, occurrences_nil, if_neg h] at hnone
  omega

theorem rounded_singleton {levels : Nat} {t : Placed σ Token} {rest : Tokens σ}
    (hopen : t.value ≠ .symbol .openAngle) (hclose : t.value ≠ .symbol .closeAngle)
    (has : t.value ≠ .keyword .as)
    (hshut : levels = 0 → EndsInName [t] → startsWith .openAngle rest = false) :
    Rounded levels [t] rest where
  shallow := shallow_singleton levels hopen
  balanced := by simp [hopen, hclose]
  named := by simpa using has
  shut := hshut

theorem Plain.rounded {levels : Nat} {t : Placed σ Token} (h : Plain levels t.value)
    (rest : Tokens σ) : Rounded levels [t] rest := by
  refine rounded_singleton h.open_ne h.close_ne h.as_ne ?_
  intro hlast hends
  obtain ⟨name, hname⟩ := hends
  exact absurd (Option.some.inj hname) (h.name_ne hlast name)

/-- A refusal at the start is about the kind of token only. -/
theorem sited_nil {levels : Nat} {e : Rejection σ} (hdeep : e.expected ≠ .shallowerType)
    (hname : e.expected ≠ .nonEmptyLogicalName) : Sited levels [] e :=
  (rounded_nil levels e.remaining).sited hdeep hname

/-! ### Traced readers -/

/-- On these tokens, what the reader takes is rounded, and its refusals are sited. -/
structure TracedOn (levels : Nat) (read : Reader σ α) (ts : Tokens σ) : Prop where
  ok : ∀ {rest : Tokens σ} {a : α}, read ts = .ok (a, rest) →
    ∃ w, ts = w ++ rest ∧ Rounded levels w rest
  error : ∀ {e : Rejection σ}, read ts = .error e → ∃ w, ts = w ++ e.remaining ∧ Sited levels w e

/-- What the reader takes is rounded, and its refusals are sited. -/
def Traced (levels : Nat) (read : Reader σ α) : Prop :=
  ∀ ts, TracedOn levels read ts

variable {levels : Nat}

theorem traced_pure (a : α) : Traced levels (pure a : Reader σ α) := by
  intro ts
  constructor
  · intro rest b h
    cases h
    exact ⟨[], rfl, rounded_nil levels _⟩
  · intro e h
    cases h

theorem Traced.bind {read : Reader σ α} {next : α → Reader σ β} (hread : Traced levels read)
    (hnext : ∀ a, Traced levels (next a)) : Traced levels (read >>= next) := by
  intro ts
  constructor
  · intro rest b h
    obtain ⟨a, mid, ha, hb⟩ := bind_eq_ok.1 h
    obtain ⟨u, rfl, hu⟩ := (hread ts).ok ha
    obtain ⟨w, rfl, hw⟩ := (hnext a _).ok hb
    exact ⟨u ++ w, by simp, hu.append hw⟩
  · intro e h
    rcases bind_eq_error.1 h with hfail | ⟨a, mid, ha, hfail⟩
    · exact (hread ts).error hfail
    · obtain ⟨u, rfl, hu⟩ := (hread ts).ok ha
      obtain ⟨w, rfl, hw⟩ := (hnext a _).error hfail
      exact ⟨u ++ w, by simp, hu.append_sited hw⟩

theorem Traced.ite {read read' : Reader σ α} (c : Bool) (h : Traced levels read)
    (h' : Traced levels read') : Traced levels (if c then read else read') := by
  cases c with
  | true => exact h
  | false => exact h'

theorem Traced.whileSeen {read : Reader σ α} (hread : Traced levels read) (more : Tokens σ → Bool) :
    Traced levels (whileSeen more read) := by
  intro ts
  constructor
  · intro rest as h
    fun_induction Reader.whileSeen more read ts generalizing as with
    | case1 => cases h
    | case2 => cases h
    | case3 ts _ a mid ha _ bs _ hbs ih =>
      cases h
      obtain ⟨u, rfl, hu⟩ := (hread _).ok ha
      obtain ⟨w, rfl, hw⟩ := ih hbs
      exact ⟨u ++ w, by simp, hu.append hw⟩
    | case4 ts _ a mid ha =>
      cases h
      exact (hread _).ok ha
    | case5 =>
      cases h
      exact ⟨[], rfl, rounded_nil levels _⟩
  · intro e h
    fun_induction Reader.whileSeen more read ts with
    | case1 ts _ e' he =>
      cases h
      exact (hread _).error he
    | case2 ts _ a mid ha _ e' he ih =>
      cases h
      obtain ⟨u, rfl, hu⟩ := (hread _).ok ha
      obtain ⟨w, rfl, hw⟩ := ih he
      exact ⟨u ++ w, by simp, hu.append_sited hw⟩
    | case3 => cases h
    | case4 => cases h
    | case5 => cases h

theorem Traced.commaSeparated {read : Reader σ α} (hread : Traced levels read) :
    Traced levels (commaSeparated read) := by
  -- what is between two commas is rounded, and so is the comma behind it
  have hitem : ∀ {ts mid : Tokens σ} {a : α}, read ts = .ok (a, mid) → startsWith .comma mid = true →
      ∃ u, ts = u ++ mid.tail ∧ Rounded levels u mid.tail := by
    intro ts mid a ha hcomma
    obtain ⟨u, rfl, hu⟩ := (hread ts).ok ha
    obtain ⟨p, behind, rfl⟩ := startsWith_eq_true.1 hcomma
    have hplain : Plain levels (.symbol .comma) := plain_symbol (by decide) (by decide)
    have hround : Rounded levels [⟨.symbol .comma, p⟩] behind := hplain.rounded behind
    exact ⟨u ++ [⟨.symbol .comma, p⟩], by simp, hu.append hround⟩
  intro ts
  constructor
  · intro rest as h
    fun_induction Reader.commaSeparated read ts generalizing as with
    | case1 => cases h
    | case2 => cases h
    | case3 ts a mid ha hcomma bs _ hbs ih =>
      cases h
      obtain ⟨u, rfl, hu⟩ := hitem ha hcomma.1
      obtain ⟨w, hmid, hw⟩ := ih hbs
      rw [hmid] at hu ⊢
      exact ⟨u ++ w, by simp, hu.append hw⟩
    | case4 ts a mid ha =>
      cases h
      exact (hread _).ok ha
  · intro e h
    fun_induction Reader.commaSeparated read ts with
    | case1 ts e' he =>
      cases h
      exact (hread _).error he
    | case2 ts a mid ha hcomma e' he ih =>
      cases h
      obtain ⟨u, rfl, hu⟩ := hitem ha hcomma.1
      obtain ⟨w, hmid, hw⟩ := ih he
      rw [hmid] at hu ⊢
      exact ⟨u ++ w, by simp, hu.append_sited hw⟩
    | case3 => cases h
    | case4 => cases h

/-! ### Single tokens -/

theorem tokenThat_traced {meaning : Token → Option α} {expected : Expectation}
    (hplain : ∀ {t a}, meaning t = some a → Plain levels t)
    (hkind : expected ≠ .shallowerType ∧ expected ≠ .nonEmptyLogicalName) :
    Traced levels (tokenThat (σ := σ) meaning expected) := by
  intro ts
  constructor
  · intro rest a h
    obtain ⟨t, ht, rfl⟩ := tokenThat_eq_ok.1 h
    exact ⟨[⟨t, a.place⟩], rfl, (hplain ht).rounded rest⟩
  · intro e h
    obtain ⟨rfl, -⟩ := tokenThat_eq_error.1 h
    exact ⟨[], rfl, sited_nil hkind.1 hkind.2⟩

theorem symbol_traced {s : Symbol} {expected : Expectation} (hopen : s ≠ .openAngle)
    (hclose : s ≠ .closeAngle)
    (hkind : expected ≠ .shallowerType ∧ expected ≠ .nonEmptyLogicalName) :
    Traced levels (symbol (σ := σ) s expected) := by
  have hfound : Traced levels
      (tokenThat (σ := σ) (fun t => if t = .symbol s then some () else none) expected) := by
    refine tokenThat_traced ?_ hkind
    intro t a ht
    obtain rfl : t = .symbol s := by simpa using ht
    exact plain_symbol hopen hclose
  exact hfound.bind fun found => traced_pure found.place

theorem takes_traced {s : Symbol} (hopen : s ≠ .openAngle) (hclose : s ≠ .closeAngle) :
    Traced levels (takes (σ := σ) s) := by
  intro ts
  constructor
  · intro rest taken h
    rcases takes_eq_ok.1 h with ⟨-, p, rfl⟩ | ⟨-, rfl, -⟩
    · have hplain : Plain levels (.symbol s) := plain_symbol hopen hclose
      exact ⟨[⟨.symbol s, p⟩], rfl, hplain.rounded rest⟩
    · exact ⟨[], rfl, rounded_nil levels _⟩
  · intro e h
    simp only [takes] at h
    split at h <;> cases h

/-- Names are plain at every level but the last. -/
theorem name_traced {expected : Expectation} (hlevels : levels ≠ 0)
    (hkind : expected ≠ .shallowerType ∧ expected ≠ .nonEmptyLogicalName) :
    Traced levels (name (σ := σ) expected) := by
  refine tokenThat_traced ?_ hkind
  intro t a ht
  split at ht
  · exact ⟨by simp, by simp, by simp, fun hlast => absurd hlast hlevels⟩
  · cases ht

/-! ### Annotations -/

theorem literal_traced (hlevels : levels ≠ 0) : Traced levels (literal (σ := σ)) := by
  have hfound : Traced levels (tokenThat (σ := σ) literalOf? .literal) := by
    refine tokenThat_traced ?_ (by decide)
    intro t a ht
    have hform : LiteralForm [⟨t, ()⟩] a := literalForm_of_literalOf? ht ()
    cases hform <;> exact ⟨by simp, by simp, by simp, fun hlast => absurd hlast hlevels⟩
  exact hfound.bind fun found => traced_pure found.value

theorem arguments_traced (hlevels : levels ≠ 0) : Traced levels (arguments (σ := σ)) := by
  refine (takes_traced (by decide) (by decide)).bind fun opened => .ite opened ?_ (traced_pure [])
  refine (takes_traced (by decide) (by decide)).bind fun closed => .ite closed (traced_pure []) ?_
  exact (literal_traced hlevels).commaSeparated.bind fun values =>
    (symbol_traced (by decide) (by decide) (by decide)).bind fun _ => traced_pure values

theorem annotations_traced (hlevels : levels ≠ 0) : Traced levels (annotations (σ := σ)) := by
  have hannot : Traced levels (annot (σ := σ)) :=
    (symbol_traced (by decide) (by decide) (by decide)).bind fun _ =>
      (name_traced hlevels (by decide)).bind fun _ =>
        (arguments_traced hlevels).bind fun _ => traced_pure _
  exact hannot.whileSeen _

/-! ### Types -/

theorem arrayMark_traced : Traced levels (arrayMark (σ := σ)) := by
  refine (takes_traced (by decide) (by decide)).bind fun opened => .ite opened ?_ (traced_pure false)
  exact (symbol_traced (by decide) (by decide) (by decide)).bind fun _ => traced_pure true

/-- What stands behind the bracket has one level less than the bracket. -/
theorem Sited.bracket {w : Tokens σ} {e : Rejection σ} (h : Sited levels w e) (p : σ) :
    Sited (levels + 1) (⟨.symbol .openAngle, p⟩ :: w) e := by
  by_cases hne : w = []
  · subst hne
    constructor
    · rw [h.deepest]
      simp [EndsInName]
    · rw [h.unnamed]
      simp
  · have hlast : last? (⟨.symbol .openAngle, p⟩ :: w) = last? w := last?_append [_] hne
    constructor
    · have hcount : occurrences .openAngle (⟨.symbol .openAngle, p⟩ :: w) =
          occurrences .closeAngle (⟨.symbol .openAngle, p⟩ :: w) + (levels + 1) ↔
          occurrences .openAngle w = occurrences .closeAngle w + levels := by
        simp
        omega
      rw [h.deepest, EndsInName, EndsInName, hlast, hcount]
    · rw [h.unnamed, hlast]

/-- A name and the arguments that a bracket may open behind it. -/
def typeHead (inBrackets : Reader σ (List (TypeRef σ))) :
    Reader σ (Placed σ String × List (TypeRef σ)) := do
  let name ← name .type
  let inner ← typeArguments inBrackets
  return (name, inner)

/-- A type is its head, and then its marks. -/
theorem typeWith_eq (inBrackets : Reader σ (List (TypeRef σ))) :
    typeWith inBrackets = (do
      let head ← typeHead inBrackets
      let array ← arrayMark
      let optional ← takes .question
      return ⟨head.1.value, head.2, array, optional, head.1.place⟩) := by
  funext ts
  simp only [typeWith, typeHead, Bind.bind]
  cases name .type ts with
  | error e => rfl
  | ok r =>
    obtain ⟨n, rest⟩ := r
    dsimp only
    cases typeArguments inBrackets rest <;> rfl

theorem typeWith_traced {inBrackets : Reader σ (List (TypeRef σ))}
    (h : Traced levels (typeHead inBrackets)) : Traced levels (typeWith inBrackets) := by
  rw [typeWith_eq]
  exact h.bind fun _ => arrayMark_traced.bind fun _ =>
    (takes_traced (by decide) (by decide)).bind fun _ => traced_pure _

/-- A head is traced if its brackets are behind the name. -/
theorem typeHead_traced {inBrackets : Reader σ (List (TypeRef σ))}
    (hok : ∀ {n : Placed σ String} {ts rest types}, startsWith .openAngle ts = true →
      inBrackets ts = .ok (types, rest) →
      ∃ w, ts = w ++ rest ∧ Rounded levels (⟨.name n.value, n.place⟩ :: w) rest)
    (herror : ∀ {n : Placed σ String} {ts e}, startsWith .openAngle ts = true →
      inBrackets ts = .error e →
      ∃ w, ts = w ++ e.remaining ∧ Sited levels (⟨.name n.value, n.place⟩ :: w) e) :
    Traced levels (typeHead inBrackets) := by
  intro ts
  constructor
  · intro rest head h
    simp only [typeHead, bind_eq_ok, name_eq_ok, pure_apply] at h
    obtain ⟨n, mid, rfl, inner, _, hinner, ⟨⟩⟩ := h
    by_cases hopen : startsWith .openAngle mid = true
    · rw [typeArguments_of_startsWith _ hopen] at hinner
      obtain ⟨w, rfl, hw⟩ := hok (n := n) hopen hinner
      exact ⟨⟨.name n.value, n.place⟩ :: w, rfl, hw⟩
    · rw [Bool.not_eq_true] at hopen
      rw [typeArguments_of_not_startsWith _ hopen] at hinner
      cases hinner
      exact ⟨[⟨.name n.value, n.place⟩], rfl,
        rounded_singleton (by simp) (by simp) (by simp) fun _ _ => hopen⟩
  · intro e h
    simp only [typeHead, bind_eq_error, name_eq_ok, pure_apply, reduceCtorEq, and_false, exists_false,
      or_false] at h
    rcases h with hfail | ⟨n, mid, rfl, hinner⟩
    · obtain ⟨rfl, -⟩ := tokenThat_eq_error.1 hfail
      exact ⟨[], rfl, sited_nil (by simp) (by simp)⟩
    · by_cases hopen : startsWith .openAngle mid = true
      · rw [typeArguments_of_startsWith _ hopen] at hinner
        obtain ⟨w, rfl, hw⟩ := herror (n := n) hopen hinner
        exact ⟨⟨.name n.value, n.place⟩ :: w, rfl, hw⟩
      · rw [Bool.not_eq_true] at hopen
        rw [typeArguments_of_not_startsWith _ hopen] at hinner
        cases hinner

/-- Brackets around traced things add a level to them. -/
theorem brackets_traced {read : Reader σ α} (hread : Traced levels read) {ts : Tokens σ}
    (hopen : startsWith .openAngle ts = true) :
    TracedOn (levels + 1) (do
      let _ ← takes .openAngle
      let types ← commaSeparated read
      let _ ← symbol .closeAngle .closeAngle
      return types) ts := by
  obtain ⟨p, behind, rfl⟩ := startsWith_eq_true.1 hopen
  have hinside := hread.commaSeparated behind
  have htaken : takes .openAngle (⟨.symbol .openAngle, p⟩ :: behind) = .ok (true, behind) :=
    takes_eq_ok.2 (.inl ⟨rfl, p, rfl⟩)
  constructor
  · intro rest types h
    rw [bind_of_ok htaken] at h
    simp only [bind_eq_ok, symbol_eq_ok, pure_apply] at h
    obtain ⟨inner, _, hinner, q, _, rfl, ⟨⟩⟩ := h
    obtain ⟨w, rfl, hw⟩ := hinside.ok hinner
    refine ⟨⟨.symbol .openAngle, p⟩ :: (w ++ [⟨.symbol .closeAngle, q⟩]), by simp, ?_⟩
    constructor
    · exact (hw.shallow.append hw.balanced (shallow_singleton levels (by simp))).bracket p
    · simp [hw.balanced]
    · rw [← List.cons_append, last?_append _ (by simp)]
      simp
    · intro hlast
      cases hlast
  · intro e h
    rw [bind_of_ok htaken] at h
    simp only [bind_eq_error, symbol_eq_error, pure_apply, reduceCtorEq, and_false, exists_false,
      or_false] at h
    rcases h with hinner | ⟨inner, mid, hinner, rfl, -⟩
    · obtain ⟨w, rfl, hw⟩ := hinside.error hinner
      exact ⟨⟨.symbol .openAngle, p⟩ :: w, rfl, hw.bracket p⟩
    -- the bracket is not closed, and what is inside does not stop between a name and a bracket
    · obtain ⟨w, rfl, hw⟩ := hinside.ok hinner
      refine ⟨⟨.symbol .openAngle, p⟩ :: w, rfl, ?_⟩
      have hclose : Sited levels w ⟨.closeAngle, mid⟩ := Rounded.sited hw (by simp) (by simp)
      exact hclose.bracket p

theorem type_traced (levels : Nat) : Traced levels (type (σ := σ) levels) := by
  induction levels with
  | zero =>
    refine typeWith_traced (typeHead_traced ?_ ?_)
    · intro n ts rest types _ h
      cases h
    · intro n ts e hopen h
      cases h
      refine ⟨[], rfl, ?_⟩
      constructor
      · simp [EndsInName, hopen]
      · simp
  | succ levels ih =>
    have hname : ∀ (n : Placed σ String) rest,
        Rounded (levels + 1) [⟨.name n.value, n.place⟩] rest := fun n rest =>
      rounded_singleton (by simp) (by simp) (by simp) fun hlast => by cases hlast
    refine typeWith_traced (typeHead_traced ?_ ?_)
    · intro n ts rest types hopen h
      obtain ⟨w, rfl, hw⟩ := (brackets_traced ih hopen).ok h
      exact ⟨w, rfl, (hname n _).append hw⟩
    · intro n ts e hopen h
      obtain ⟨w, rfl, hw⟩ := (brackets_traced ih hopen).error h
      exact ⟨w, rfl, (hname n _).append_sited hw⟩

/-! ### Fields and declarations -/

theorem separator_traced : Traced levels (separator (σ := σ)) := by
  refine (takes_traced (by decide) (by decide)).bind fun divided => .ite divided (traced_pure ()) ?_
  exact (takes_traced (by decide) (by decide)).bind fun _ => traced_pure ()

theorem field_traced : Traced maxTypeDepth (field (σ := σ)) :=
  (annotations_traced (by decide)).bind fun _ => (name_traced (by decide) (by decide)).bind fun _ =>
    (symbol_traced (by decide) (by decide) (by decide)).bind fun _ =>
      (type_traced maxTypeDepth).bind fun _ => (annotations_traced (by decide)).bind fun _ =>
        separator_traced.bind fun _ => traced_pure _

theorem fields_traced : Traced maxTypeDepth (fields (σ := σ)) := by
  have hnext : Traced maxTypeDepth (nextField (σ := σ)) := by
    intro ts
    cases ts with
    | cons t ts => exact ⟨(field_traced (t :: ts)).ok, (field_traced (t :: ts)).error⟩
    | nil =>
      constructor
      · intro rest f h
        cases h
      · intro e h
        cases h
        exact ⟨[], rfl, sited_nil (by simp) (by simp)⟩
  exact (hnext.whileSeen _).bind fun fs =>
    (symbol_traced (by decide) (by decide) (by decide)).bind fun _ => traced_pure fs

/-- Where a logical name is refused, the string that is refused for being empty is the empty one. -/
theorem logicalNameExpected_eq_nonEmpty_iff {ts : Tokens σ}
    (h : ∀ t ∈ ts.head?, logicalNameOf? t.value = none) :
    logicalNameExpected ts = .nonEmptyLogicalName ↔ ts.head?.map (·.value) = some (.string "") := by
  cases ts with
  | nil => simp [logicalNameExpected]
  | cons t rest =>
    obtain ⟨value, place⟩ := t
    have hmeaning := h _ rfl
    cases value with
    | string text =>
      have hempty : text = "" := by simpa [logicalNameOf?] using hmeaning
      simp [logicalNameExpected, hempty]
    | _ => simp [logicalNameExpected]

theorem nameClause_traced (otherwise : String) :
    Traced levels (nameClause (σ := σ) otherwise) := by
  intro ts
  by_cases has : ∃ p rest, ts = ⟨.keyword .as, p⟩ :: rest
  · obtain ⟨p, behind, rfl⟩ := has
    have hclause : nameClause otherwise (⟨.keyword .as, p⟩ :: behind) = logicalName behind := rfl
    constructor
    · intro rest s h
      rw [hclause] at h
      obtain ⟨-, q, rfl⟩ := logicalName_eq_ok h
      refine ⟨[⟨.keyword .as, p⟩] ++ [⟨.string s, q⟩], rfl, ?_⟩
      constructor
      · exact (shallow_singleton levels (by simp)).append (by simp) (shallow_singleton levels (by simp))
      · simp
      · rw [last?_append _ (by simp)]
        simp
      · rw [endsInName_append _ (by simp)]
        intro _ hends
        obtain ⟨name, hname⟩ := hends
        cases hname
    · intro e h
      rw [hclause] at h
      obtain ⟨rfl, hnone⟩ := logicalName_eq_error.1 h
      refine ⟨[⟨.keyword .as, p⟩], rfl, ?_⟩
      constructor
      · have hkind : logicalNameExpected behind ≠ .shallowerType := by
          unfold logicalNameExpected
          split <;> simp
        simp [hkind, EndsInName]
      · simpa using logicalNameExpected_eq_nonEmpty_iff hnone
  · have hclause := nameClause_of_not_as otherwise has
    constructor
    · intro rest s h
      rw [hclause] at h
      cases h
      exact ⟨[], rfl, rounded_nil levels _⟩
    · intro e h
      rw [hclause] at h
      cases h

theorem declaration_traced : Traced maxTypeDepth (declaration (σ := σ)) := by
  refine (annotations_traced (by decide)).bind fun front => ?_
  have hkind : Traced maxTypeDepth (tokenThat (σ := σ) kindOf?
      (if front.isEmpty then .declaration else .declarationKeyword)) := by
    refine tokenThat_traced ?_ ?_
    · intro t a ht
      unfold kindOf? at ht
      split at ht <;> cases ht <;> exact ⟨by simp, by simp, by simp, by simp⟩
    · split <;> decide
  exact hkind.bind fun kind => (name_traced (by decide) (by decide)).bind fun name =>
    (nameClause_traced name.value).bind fun _ =>
      (symbol_traced (by decide) (by decide) (by decide)).bind fun _ =>
        fields_traced.bind fun _ => traced_pure _

/-- The parser is traced, with as many levels as types may have. -/
theorem declarations_traced : Traced maxTypeDepth (declarations (σ := σ)) :=
  declaration_traced.whileSeen _

end Reader

end ModelIdl
