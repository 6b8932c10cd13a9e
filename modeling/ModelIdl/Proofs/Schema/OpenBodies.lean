import ModelIdl.Proofs.Schema.Alternatives
import ModelIdl.Proofs.Schema.Nesting
import ModelIdl.Proofs.Schema.Recognition

/-!
# ModelIdl.Proofs.Schema.OpenBodies

Where a part of a source could begin or end. Three expectations are about that (`Expectation.atParts`), and
a refusal with one of them stands behind whole declarations, or in a body behind whole fields and, maybe,
the annotations of the next one (`Reader.declarations_atPart`). What stands open there can be closed at
once, and whole fields may come before (`Grammar.OpenBody.close`, `Grammar.OpenBody.append`).
-/

namespace ModelIdl

open Reader

/-! ### Bodies that stand open -/

namespace Grammar

variable {σ : Type}

/-- Declarations within the limits, and behind them one whose body stands open behind some fields. -/
inductive OpenBody : Tokens σ → Prop
  | mk {x u v w : Tokens σ} {s : Schema σ} {front : List (Annot σ)} {word : Token}
      {kind : DeclarationKind} {n logical : String} {fields : List (Field σ)} {p q r : σ}
      (units : UnitForm anyJoin x s) (limits : s.WithinLimits) (before : Repeated AnnotForm u front)
      (opened : KindForm word kind) (clause : NameClauseForm n v logical) (named : logical ≠ "")
      (body : BodyForm anyJoin w fields) (shallow : ∀ f ∈ fields, f.type.depth ≤ maxTypeDepth) :
      OpenBody (x ++ (u ++ ⟨word, p⟩ :: ⟨.name n, q⟩ :: (v ++ ⟨.symbol .openBrace, r⟩ :: w)))

theorem BodyForm.append {w x : Tokens σ} {fs gs : List (Field σ)} (h : BodyForm anyJoin w fs)
    (h' : BodyForm anyJoin x gs) : BodyForm anyJoin (w ++ x) (fs ++ gs) := by
  induction h with
  | nil => exact h'
  | cons head _ _ ih =>
    rw [List.append_assoc]
    exact .cons head trivial ih

/-- Further fields leave the body open. -/
theorem OpenBody.append {outer x : Tokens σ} {gs : List (Field σ)} (h : OpenBody outer)
    (hbody : BodyForm anyJoin x gs) (hshallow : ∀ g ∈ gs, g.type.depth ≤ maxTypeDepth) :
    OpenBody (outer ++ x) := by
  cases h with
  | @mk y u v w s front word kind n logical fields p q r units limits before opened clause named body
      shallow =>
    have hall : ∀ f ∈ fields ++ gs, f.type.depth ≤ maxTypeDepth := by
      intro f hf
      exact (List.mem_append.1 hf).elim (shallow f) (hshallow f)
    have hopen := OpenBody.mk (p := p) (q := q) (r := r) units limits before opened clause named
      (body.append hbody) hall
    simpa using hopen

theorem withinLimits_append {s t : Schema σ} (hs : s.WithinLimits) (ht : t.WithinLimits) :
    Schema.WithinLimits ⟨s.declarations ++ t.declarations⟩ := by
  intro d hd
  exact (List.mem_append.1 hd).elim (hs d) (ht d)

theorem withinLimits_singleton {d : Declaration σ} (h : d.WithinLimits) : Schema.WithinLimits ⟨[d]⟩ := by
  intro d' hd
  rwa [List.mem_singleton.1 hd]

/-- Further declarations may stand in front. -/
theorem OpenBody.behind {w outer : Tokens σ} {t : Schema σ} (hunits : UnitForm anyJoin w t)
    (hlimits : t.WithinLimits) (h : OpenBody outer) : OpenBody (w ++ outer) := by
  cases h with
  | mk units limits before opened clause named body shallow =>
    rw [← List.append_assoc]
    exact .mk (s := ⟨t.declarations ++ _⟩) (Repeated.append hunits units)
      (withinLimits_append hlimits limits) before opened clause named body shallow

end Grammar

open Grammar

namespace Reader

variable {σ : Type}

/-- Whatever the plain grammar derives within its limits is read to the end. -/
theorem exists_declarations_of_unitForm {w : Tokens σ} {s : Schema σ} (h : UnitForm anyJoin w s)
    (hlimits : s.WithinLimits) : ∃ ds, declarations w = .ok (ds, []) := by
  obtain ⟨u, hu, hpooled⟩ := exists_greedy_of_unitForm h
  exact ⟨_, declarations_complete hu (Schema.withinLimits_of_pooled_eq hpooled hlimits)⟩

/-- A body that stands open can be closed. -/
theorem exists_declarations_of_openBody {outer : Tokens σ} (h : OpenBody outer) (p : σ) :
    ∃ ds, declarations (outer ++ [⟨.symbol .closeBrace, p⟩]) = .ok (ds, []) := by
  cases h with
  | @mk x u v w s front word kind n logical fields q₁ q₂ q₃ units limits before opened clause named body
      shallow =>
    have hlast : UnitForm anyJoin
        (u ++ ⟨word, q₁⟩ :: ⟨.name n, q₂⟩ ::
          (v ++ ⟨.symbol .openBrace, q₃⟩ :: (w ++ [⟨.symbol .closeBrace, p⟩])) ++ [])
        ⟨[⟨kind, n, logical, front, fields, q₁⟩]⟩ := .cons (.mk before opened clause body) .nil
    have hall := exists_declarations_of_unitForm (s := ⟨s.declarations ++ _⟩)
      (Repeated.append units hlast)
      (withinLimits_append limits (withinLimits_singleton ⟨named, shallow⟩))
    simpa using hall

/-! ### Refusals between parts -/

/-- Behind one of these a field may start with its annotations. -/
def fieldOpeners : List Token :=
  [.symbol .openBrace, .symbol .semicolon, .symbol .comma]

/-- The tokens end in one behind which a field may start with its annotations. -/
def OpensField (w : Tokens σ) : Prop :=
  ∃ t ∈ fieldOpeners, last? w = some t

theorem last?_concat (w : Tokens σ) (t : Placed σ Token) : last? (w ++ [t]) = some t.value :=
  last?_append w (List.cons_ne_nil t [])

theorem OpensField.append (u : Tokens σ) {w : Tokens σ} (h : OpensField w) : OpensField (u ++ w) := by
  obtain ⟨t, ht, hlast⟩ := h
  have hne : w ≠ [] := by
    rintro rfl
    cases hlast
  exact ⟨t, ht, by rw [last?_append u hne, hlast]⟩

/-- A field that ends in a separator may be followed by the annotations of the next. -/
theorem opensField_of_separated {w : Tokens σ} {f : Field σ} (h : FieldForm true w f) :
    OpensField w := by
  cases h with
  | @mk u v w x front back type n _ p q before typed behind divided =>
    have hlast : OpensField x := by
      cases divided with
      | semicolon => exact ⟨.symbol .semicolon, by decide, rfl⟩
      | comma => exact ⟨.symbol .comma, by decide, rfl⟩
    have happend := hlast.append (u ++ ⟨.name n, p⟩ :: ⟨.symbol .colon, q⟩ :: (v ++ w))
    simpa using happend

/-- Where a part of the source could begin or end: behind declarations, behind fields, or where
annotations of a further field stand behind them. -/
inductive AtPart : Expectation → Tokens σ → Prop
  | declaration {w : Tokens σ} {s : Schema σ} (units : UnitForm anyJoin w s) (limits : s.WithinLimits) :
      AtPart .declaration w
  | body {outer : Tokens σ} (opened : OpenBody outer) : AtPart .fieldOrCloseBrace outer
  | field {outer u : Tokens σ} {as : List (Annot σ)} (opened : OpenBody outer)
      (before : Repeated AnnotForm u as) (begun : as ≠ [] → OpensField outer) :
      AtPart .fieldName (outer ++ u)

theorem AtPart.behind {expected : Expectation} {w front : Tokens σ} {s : Schema σ}
    (hunits : UnitForm anyJoin w s) (hlimits : s.WithinLimits) (h : AtPart expected front) :
    AtPart expected (w ++ front) := by
  cases h with
  | declaration units limits =>
    exact .declaration (s := ⟨s.declarations ++ _⟩) (Repeated.append hunits units)
      (withinLimits_append hlimits limits)
  | body opened => exact .body (opened.behind hunits hlimits)
  | field opened before begun =>
    rw [← List.append_assoc]
    exact .field (opened.behind hunits hlimits) before fun hne => (begun hne).append w

theorem field_refusal [Inhabited σ] {ts : Tokens σ} {e : Rejection σ} (h : field ts = .error e)
    (hparts : e.expected ∈ Expectation.atParts) :
    e.expected = .fieldName ∧ ∃ u as, ts = u ++ e.remaining ∧ Repeated AnnotForm u as := by
  rcases bind_eq_error.1 h with hfail | ⟨as, mid, has, hfail⟩
  · exact absurd hparts (annotations_offers ts e hfail).1
  · rcases bind_eq_error.1 hfail with hname | ⟨n, rest, -, hbehind⟩
    · obtain ⟨rfl, -⟩ := tokenThat_eq_error.1 hname
      obtain ⟨u, rfl, hu⟩ := annotations_sound has
      exact ⟨rfl, u, as, rfl, hu⟩
    · have hoffers := behindFieldName_offers fun type back =>
        (⟨n.value, type, as ++ back, n.place⟩ : Field σ)
      exact absurd hparts (hoffers rest e hbehind).1

/-- In a body, a field is refused behind whole fields. If annotations were read for it, the field in front
of them did not claim them. -/
theorem body_refusal {ts : Tokens σ} {e : Rejection σ}
    (h : whileSeen (fun ts => !startsWith .closeBrace ts) nextField ts = .error e) :
    ∃ w fs rest, ts = w ++ rest ∧ BodyForm anyJoin w fs ∧ (∀ f ∈ fs, f.type.depth ≤ maxTypeDepth) ∧
      nextField rest = .error e ∧ (startsWith .atSign rest = true → w ≠ [] → OpensField w) := by
  fun_induction whileSeen (fun ts => !startsWith .closeBrace ts) nextField ts with
  | case1 ts _ e' he =>
    cases h
    exact ⟨[], [], ts, rfl, .nil, by simp, he, fun _ hne => absurd rfl hne⟩
  | case2 ts _ f mid hf _ e' hrest ih =>
    cases h
    obtain ⟨w, separated, rfl, hw, hjoin, hdepth⟩ := field_sound (nextField_eq_ok hf)
    obtain ⟨x, gs, rest, rfl, hx, hdepths, hfail, hopens⟩ := ih hrest
    refine ⟨w ++ x, f :: gs, rest, by simp, .cons hw trivial hx, by simp_all, hfail,
      fun hat _ => ?_⟩
    by_cases hne : x = []
    · subst hne
      obtain rfl : separated = true := hjoin.resolve_right (by simp [hat])
      rw [List.append_nil]
      exact opensField_of_separated hw
    · exact (hopens hat hne).append w
  | case3 => cases h
  | case4 => cases h
  | case5 => cases h

/-- In the body of a declaration, a refusal between parts stands behind whole fields. -/
theorem fields_atPart [Inhabited σ] {ts outer : Tokens σ} {e : Rejection σ} (h : fields ts = .error e)
    (hparts : e.expected ∈ Expectation.atParts) (hopen : OpenBody outer) (hopens : OpensField outer) :
    ∃ front, ts = front ++ e.remaining ∧ AtPart e.expected (outer ++ front) := by
  obtain ⟨w, fs, rest, rfl, hw, hshallow, hnext, hbegun⟩ := body_refusal (fields_refusal h)
  have hbody := hopen.append hw hshallow
  cases rest with
  | nil =>
    cases hnext
    exact ⟨w, rfl, .body hbody⟩
  | cons t rest =>
    obtain ⟨hkind, u, as, hrest, hu⟩ := field_refusal hnext hparts
    rw [hkind, hrest]
    refine ⟨w ++ u, by simp, ?_⟩
    rw [← List.append_assoc]
    refine .field hbody hu fun hne => ?_
    by_cases hw : w = []
    · rw [hw, List.append_nil]
      exact hopens
    · refine (hbegun ?_ hw).append outer
      rw [hrest]
      cases hu with
      | nil => exact absurd rfl hne
      | cons head _ => cases head with | mk => rfl

/-- A refusal between parts in a declaration is of its first token, or of one of its fields in a body that
stands open. -/
theorem declaration_refusal [Inhabited σ] {ts : Tokens σ} {e : Rejection σ}
    (h : declaration ts = .error e) (hparts : e.expected ∈ Expectation.atParts)
    (hnames : ∀ t ∈ ts, t.value ≠ .name "") :
    e = ⟨.declaration, ts⟩ ∨
      ∃ outer rest, ts = outer ++ rest ∧ OpenBody outer ∧ OpensField outer ∧ fields rest = .error e := by
  simp only [declaration, bind_eq_error, tokenThat_eq_ok, name_eq_ok, symbol_eq_ok, pure_apply,
    reduceCtorEq, and_false, exists_false, or_false] at h
  obtain hfail | ⟨front, _, hfront, hfail | ⟨kind, _, ⟨word, hword, rfl⟩, hfail | ⟨n, _, rfl,
    hfail | ⟨logical, _, hlogical, hfail | ⟨r, rest, rfl, hfail⟩⟩⟩⟩⟩ := h
  · exact absurd hparts (annotations_offers ts e hfail).1
  · obtain ⟨u, rfl, hu⟩ := annotations_sound hfront
    obtain ⟨rfl, -⟩ := tokenThat_eq_error.1 hfail
    -- with annotations in front, the keyword alone is expected
    cases hu with
    | nil => exact .inl rfl
    | cons => exact absurd hparts (by simp [Expectation.atParts])
  · obtain ⟨rfl, -⟩ := tokenThat_eq_error.1 hfail
    exact absurd hparts (by simp [Expectation.atParts])
  · exact absurd hparts (nameClause_offers n.value _ e hfail).1
  · obtain ⟨rfl, -⟩ := symbol_eq_error.1 hfail
    exact absurd hparts (by simp [Expectation.atParts])
  · obtain ⟨u, rfl, hu⟩ := annotations_sound hfront
    obtain ⟨v, rfl, hv, hne⟩ := nameClause_sound hlogical
    have hnamed : logical ≠ "" := hne fun hempty =>
      hnames ⟨.name n.value, n.place⟩ (by simp) (by rw [hempty])
    have hopen : OpenBody (u ++ ⟨word, kind.place⟩ :: ⟨.name n.value, n.place⟩ ::
        (v ++ [⟨.symbol .openBrace, r⟩])) :=
      .mk (s := ⟨[]⟩) (x := []) .nil (by simp [Schema.WithinLimits]) hu (kindForm_of_kindOf? hword) hv
        hnamed .nil (by simp)
    refine .inr ⟨_, rest, by simp, hopen, ⟨.symbol .openBrace, by decide, ?_⟩, hfail⟩
    have hlast := last?_concat (u ++ ⟨word, kind.place⟩ :: ⟨.name n.value, n.place⟩ :: v)
      ⟨.symbol .openBrace, r⟩
    simpa using hlast

theorem declaration_atPart [Inhabited σ] {ts : Tokens σ} {e : Rejection σ}
    (h : declaration ts = .error e) (hparts : e.expected ∈ Expectation.atParts)
    (hnames : ∀ t ∈ ts, t.value ≠ .name "") :
    ∃ front, ts = front ++ e.remaining ∧ AtPart e.expected front := by
  rcases declaration_refusal h hparts hnames with rfl | ⟨outer, rest, rfl, hopen, hopens, hfail⟩
  · exact ⟨[], rfl, .declaration (s := ⟨[]⟩) .nil (by simp [Schema.WithinLimits])⟩
  · obtain ⟨front, rfl, hat⟩ := fields_atPart hfail hparts hopen hopens
    exact ⟨outer ++ front, by simp, hat⟩

/-- A refusal between parts stands behind whole declarations, or in a body behind whole fields. -/
theorem declarations_atPart [Inhabited σ] {ts : Tokens σ} {e : Rejection σ}
    (h : declarations ts = .error e) (hparts : e.expected ∈ Expectation.atParts)
    (hnames : ∀ t ∈ ts, t.value ≠ .name "") :
    ∃ front, ts = front ++ e.remaining ∧ AtPart e.expected front := by
  unfold declarations at h
  fun_induction whileSeen (fun ts => !ts.isEmpty) declaration ts with
  | case1 ts _ e' he =>
    cases h
    exact declaration_atPart he hparts hnames
  | case2 ts _ d mid hd _ e' hrest ih =>
    cases h
    obtain ⟨w, rfl, hform, hlimits⟩ := declaration_sound hd
    obtain ⟨front, rfl, hat⟩ := ih hrest fun t ht => hnames t (List.mem_append_right _ ht)
    obtain ⟨p, hp⟩ := name_mem_of_declarationForm hform
    have hname : d.name ≠ "" := fun hempty =>
      hnames _ (List.mem_append_left _ hp) (by rw [hempty])
    have hunit : UnitForm greedyJoin (w ++ []) ⟨[d]⟩ := .cons hform .nil
    rw [List.append_nil] at hunit
    exact ⟨w ++ front, by simp, hat.behind hunit.any (withinLimits_singleton (hlimits hname))⟩
  | case3 => cases h
  | case4 => cases h
  | case5 => cases h

end Reader

end ModelIdl
