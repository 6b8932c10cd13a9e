import ModelIdl.Proofs.Schema.OpenBodies

/-!
# ModelIdl.Proofs.Schema.LeadingAnnotations

Annotations that stand where a field starts belong to that field, so no body ends behind them. They are
told from annotations behind a type by what stands in front of them: a brace, a semicolon or a comma. A
scan from left to right finds them (`Phase.run`). It gets through whatever is read as declarations
(`Phase.run_declarations`), and behind such annotations it does not get over a closing brace
(`Reader.FieldBegun.run_eq`).
-/

namespace ModelIdl

open Grammar Reader

variable {σ : Type}

/-- The tokens end in annotations that stand where a field starts. -/
def Reader.FieldBegun (front : Tokens σ) : Prop :=
  ∃ outer u as, front = outer ++ u ∧ Repeated AnnotForm u as ∧ as ≠ [] ∧ OpensField outer

/-! ### Scanning -/

/-- What the scan knows about the tokens that it has seen. -/
inductive Phase where
  /-- A field starts here at most without annotations. -/
  | outside
  /-- A field could start here. -/
  | fresh
  /-- Annotations started where a field could. -/
  | begun
  /-- Such an annotation has a parenthesis open. -/
  | arguments
deriving DecidableEq, Repr

namespace Phase

/-- The scan goes on over a token, if it can. -/
def step : Phase → Token → Option Phase
  | begun, .symbol .atSign | begun, .name _ => some begun
  | begun, .symbol .openParen => some arguments
  | begun, .symbol .colon => some outside
  | begun, _ => none
  | arguments, .symbol .closeParen => some begun
  | arguments, .symbol .openBrace | arguments, .symbol .semicolon | arguments, .symbol .atSign => none
  | arguments, _ => some arguments
  | fresh, .symbol .atSign => some begun
  | _, .symbol .openBrace | _, .symbol .semicolon | _, .symbol .comma => some fresh
  | _, _ => some outside

/-- The scan of tokens from a phase. -/
def run (phase : Phase) (w : Tokens σ) : Option Phase :=
  w.foldlM (fun p t => step p t.value) phase

@[simp] theorem run_nil (p : Phase) : run p ([] : Tokens σ) = some p := rfl

@[simp] theorem run_cons (p : Phase) (t : Placed σ Token) (w : Tokens σ) :
    run p (t :: w) = (step p t.value).bind fun q => run q w := rfl

@[simp] theorem run_append (p : Phase) (u w : Tokens σ) :
    run p (u ++ w) = (run p u).bind fun q => run q w :=
  List.foldlM_append

/-! ### Annotations -/

/-- The scan leaves tokens where no field could start, wherever it came from outside of annotations. -/
structure Rests (w : Tokens σ) : Prop where
  outside : run .outside w = some .outside
  fresh : run .fresh w = some .outside

theorem rests_literal {w : Tokens σ} {value : Literal} (h : LiteralForm w value) : Rests w := by
  cases h <;> exact ⟨rfl, rfl⟩

theorem rests_listed {α : Type} {item : Tokens σ → α → Prop} {w : Tokens σ} {as : List α}
    (h : Listed item w as) (hitem : ∀ {v a}, v.length ≤ w.length → item v a → Rests v) : Rests w := by
  induction h with
  | last only => exact hitem (Nat.le_refl _) only
  | @more w ws a as p head tail ih =>
    have hhead := hitem (by simp) head
    have htail := ih fun hle => hitem <| by
      simp only [List.length_append, List.length_cons]
      omega
    constructor
    · simp [hhead.outside, step, htail.fresh]
    · simp [hhead.fresh, step, htail.fresh]

/-- Inside parentheses, the scan stays there. -/
theorem run_arguments {w : Tokens σ} {values : List Literal} (h : Listed LiteralForm w values) :
    run .arguments w = some .arguments := by
  have hliteral : ∀ {w : Tokens σ} {value}, LiteralForm w value →
      run .arguments w = some .arguments := by
    intro w value h
    cases h <;> rfl
  induction h with
  | last only => exact hliteral only
  | more head _ ih => simp [hliteral head, step, ih]

/-- An annotation starts what is fresh and goes on with what is begun. Elsewhere it changes nothing. -/
theorem run_annot {w : Tokens σ} {a : Annot σ} (h : AnnotForm w a) :
    run .outside w = some .outside ∧ run .fresh w = some .begun ∧ run .begun w = some .begun := by
  cases h with
  | @mk w values n p q inner =>
    have hinner : run .outside w = some .outside ∧ run .begun w = some .begun := by
      cases inner with
      | absent => exact ⟨rfl, rfl⟩
      | empty => exact ⟨rfl, rfl⟩
      | listed inner =>
        have hrests := rests_listed inner fun _ => rests_literal
        exact ⟨by simp [step, hrests.outside], by simp [step, run_arguments inner]⟩
    simp [step, hinner.1, hinner.2]

theorem run_annots {w : Tokens σ} {as : List (Annot σ)} (h : Repeated AnnotForm w as) :
    run .outside w = some .outside ∧ run .begun w = some .begun ∧
      run .fresh w = some (if as = [] then .fresh else .begun) := by
  induction h with
  | nil => exact ⟨rfl, rfl, rfl⟩
  | cons head _ ih =>
    obtain ⟨houtside, hfresh, hbegun⟩ := run_annot head
    simp [houtside, hfresh, hbegun, ih.1, ih.2.1]

/-! ### Declarations -/

theorem rests_type {w : Tokens σ} {t : TypeRef σ} (h : TypeForm w t) : Rests w := by
  have hmarks : ∀ {u v : Tokens σ} {array optional}, ArrayForm u array → OptionalForm v optional →
      run .outside (u ++ v) = some .outside := by
    intro u v array optional hu hv
    cases hu <;> cases hv <;> rfl
  -- the types in brackets are derived from fewer tokens
  induction hn : w.length using Nat.strongRecOn generalizing w t with
  | ind n ih =>
    cases h with
    | plain mark tail =>
      have := hmarks mark tail
      exact ⟨by simpa [step] using this, by simpa [step] using this⟩
    | @generic v _ _ n types array optional p q r inner mark tail =>
      have hinner : Rests v := by
        refine rests_listed inner fun hle hitem => ih _ ?_ hitem rfl
        rw [← hn, List.length_cons, List.length_cons, List.length_append]
        omega
      have := hmarks mark tail
      constructor
      · simpa [step, hinner.outside] using this
      · simpa [step, hinner.outside] using this

/-- A phase outside of annotations that started where a field could. -/
def Resting (p : Phase) : Prop :=
  p = .outside ∨ p = .fresh

theorem run_field {separated : Bool} {w : Tokens σ} {f : Field σ} (h : FieldForm separated w f)
    {p : Phase} (hp : p.Resting) : ∃ q, q.Resting ∧ run p w = some q := by
  cases h with
  | @mk u v w x front back type n _ _ _ before typed behind divided =>
    obtain ⟨q, hq, hdivided⟩ : ∃ q, q.Resting ∧ run .outside x = some q := by
      cases divided with
      | absent => exact ⟨_, .inl rfl, rfl⟩
      | semicolon => exact ⟨_, .inr rfl, rfl⟩
      | comma => exact ⟨_, .inr rfl, rfl⟩
    obtain ⟨houtside, -, hfresh⟩ := run_annots before
    obtain ⟨hbehind, -, -⟩ := run_annots behind
    have htype := (rests_type typed).outside
    refine ⟨q, hq, ?_⟩
    -- annotations may be begun up to the colon, but not behind it
    rcases hp with rfl | rfl
    · simp [houtside, step, htype, hbehind, hdivided]
    · by_cases hnone : front = [] <;> simp [hfresh, hnone, step, htype, hbehind, hdivided]

theorem run_body {join : Join σ} {w : Tokens σ} {fs : List (Field σ)} (h : BodyForm join w fs)
    {p : Phase} (hp : p.Resting) : ∃ q, q.Resting ∧ run p w = some q := by
  induction h generalizing p with
  | nil => exact ⟨p, hp, rfl⟩
  | cons head _ _ ih =>
    obtain ⟨q, hq, hhead⟩ := run_field head hp
    obtain ⟨r, hr, htail⟩ := ih hq
    exact ⟨r, hr, by rw [run_append, hhead, Option.bind_some, htail]⟩

theorem run_declaration {join : Join σ} {w : Tokens σ} {d : Declaration σ}
    (h : DeclarationForm join w d) : run .outside w = some .outside := by
  cases h with
  | @mk u v w front word kind n logical fields _ _ _ _ before opened clause body =>
    obtain ⟨q, hq, hbody⟩ := run_body body (.inr rfl)
    have hclause : run .outside v = some .outside := by
      cases clause <;> rfl
    rcases hq with rfl | rfl <;> cases opened <;> simp [(run_annots before).1, step, hclause, hbody]

/-- The scan gets through whatever is read as declarations. -/
theorem run_declarations {ts : Tokens σ} {ds : List (Declaration σ)}
    (h : declarations ts = .ok (ds, [])) : run .outside ts = some .outside := by
  obtain ⟨w, hts, hform⟩ := declaration_sound.whileSeen _ h
  rw [hts, List.append_nil]
  clear h hts
  induction hform with
  | nil => rfl
  | cons head _ ih => rw [run_append, run_declaration head.1, Option.bind_some, ih]

/-! ### Annotations that are begun -/

/-- Behind a token that opens a field, a field could start, unless the token is inside of parentheses. -/
theorem step_fieldOpener {p q : Phase} {t : Token} (ht : t ∈ fieldOpeners) (h : step p t = some q) :
    q = .fresh ∨ q = .arguments := by
  simp only [fieldOpeners, List.mem_cons, List.not_mem_nil, or_false] at ht
  rcases ht with rfl | rfl | rfl <;> cases p <;> cases h <;> first | exact .inl rfl | exact .inr rfl

theorem run_opensField {p q : Phase} {w : Tokens σ} (h : run p w = some q) (hopens : OpensField w) :
    q = .fresh ∨ q = .arguments := by
  obtain ⟨t, ht, hlast⟩ := hopens
  rcases List.eq_nil_or_concat w with rfl | ⟨u, last, rfl⟩
  · cases hlast
  · rw [List.concat_eq_append] at h hlast
    rw [last?_concat] at hlast
    obtain rfl := Option.some.inj hlast
    rw [run_append] at h
    obtain ⟨r, -, hlast⟩ := Option.bind_eq_some_iff.1 h
    have hstep : step r last.value = some q := by simpa using hlast
    exact step_fieldOpener ht hstep

end Phase

/-- Behind annotations that start a field, the scan knows them. -/
theorem Reader.FieldBegun.run_eq {front : Tokens σ} (h : FieldBegun front) {p q : Phase}
    (hrun : p.run front = some q) : q = .begun := by
  obtain ⟨outer, u, as, rfl, hannots, hne, hopens⟩ := h
  rw [Phase.run_append] at hrun
  obtain ⟨r, houter, hrun⟩ := Option.bind_eq_some_iff.1 hrun
  rcases Phase.run_opensField houter hopens with rfl | rfl
  · obtain ⟨-, -, hfresh⟩ := Phase.run_annots hannots
    rw [hfresh, if_neg hne] at hrun
    exact (Option.some.inj hrun).symm
  -- no annotation starts inside of the parentheses of another
  · cases hannots with
    | nil => exact absurd rfl hne
    | cons head _ =>
      cases head
      cases hrun

end ModelIdl
