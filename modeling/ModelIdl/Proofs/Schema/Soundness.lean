import ModelIdl.Proofs.Schema.Grammar

/-!
# ModelIdl.Proofs.Schema.Soundness

What the parser reads is what the grammar derives. Each reader is *sound* for the relation of its rule:
the tokens that it takes are derived by the rule, with the tree that it gives (`Reader.Sound`). Together
the readers are sound for the grammar under `greedyJoin`, because annotations are read as long as they
come, so none is left in front of the next field (`annotations_exhaustive`).
-/

namespace ModelIdl

open Grammar

namespace Reader

variable {σ α : Type}

/-- What the reader takes from the front of the tokens is related to the value it gives. -/
def Sound (read : Reader σ α) (form : Tokens σ → α → Prop) : Prop :=
  ∀ {ts rest : Tokens σ} {a : α}, read ts = .ok (a, rest) → ∃ w, ts = w ++ rest ∧ form w a

/-! ### Repetition -/

theorem Sound.whileSeen {read : Reader σ α} {form : Tokens σ → α → Prop} (hread : Sound read form)
    (more : Tokens σ → Bool) : Sound (whileSeen more read) (Repeated form) := by
  intro ts rest as h
  fun_induction Reader.whileSeen more read ts generalizing as with
  | case1 => cases h
  | case2 => cases h
  | case3 ts _ a left ha _ bs _ hbs ih =>
    cases h
    obtain ⟨w, rfl, hw⟩ := hread ha
    obtain ⟨ws, rfl, hws⟩ := ih hbs
    exact ⟨w ++ ws, by simp, .cons hw hws⟩
  | case4 ts _ a left ha =>
    cases h
    obtain ⟨w, rfl, hw⟩ := hread ha
    exact ⟨w ++ [], by simp, .cons hw .nil⟩
  | case5 =>
    cases h
    exact ⟨[], rfl, .nil⟩

theorem Sound.commaSeparated {read : Reader σ α} {form : Tokens σ → α → Prop}
    (hread : Sound read form) : Sound (commaSeparated read) (Listed form) := by
  intro ts rest as h
  fun_induction Reader.commaSeparated read ts generalizing as with
  | case1 => cases h
  | case2 => cases h
  | case3 ts a left ha hcomma bs _ hbs ih =>
    cases h
    obtain ⟨w, rfl, hw⟩ := hread ha
    obtain ⟨p, behind, rfl⟩ := startsWith_eq_true.1 hcomma.1
    obtain ⟨ws, hws, hlist⟩ := ih hbs
    obtain rfl : behind = ws ++ rest := hws
    exact ⟨w ++ ⟨.symbol .comma, p⟩ :: ws, by simp, .more hw hlist⟩
  | case4 ts a left ha =>
    cases h
    obtain ⟨w, rfl, hw⟩ := hread ha
    exact ⟨w, rfl, .last hw⟩

/-- A repetition that goes on by a look at the tokens ends in front of tokens that do not say so. -/
theorem whileSeen_exhaustive {read : Reader σ α} {more : Tokens σ → Bool}
    (hprogress : ∀ {ts rest a}, read ts = .ok (a, rest) → rest.length < ts.length)
    {ts rest : Tokens σ} {as : List α} (h : whileSeen more read ts = .ok (as, rest)) :
    more rest = false := by
  fun_induction whileSeen more read ts generalizing as with
  | case1 => cases h
  | case2 => cases h
  | case3 ts _ a left _ _ bs _ hbs ih =>
    cases h
    exact ih hbs
  | case4 ts _ a left ha hlt => exact absurd (hprogress ha) hlt
  | case5 ts hmore =>
    cases h
    simpa using hmore

/-! ### Annotations -/

theorem literalForm_of_literalOf? {t : Token} {value : Literal} (h : literalOf? t = some value)
    (p : σ) : LiteralForm [⟨t, p⟩] value := by
  cases t with
  | integer n =>
    cases h
    exact .integer
  | number x =>
    cases h
    exact .number
  | string text =>
    cases h
    exact .string
  | name text =>
    cases h
    exact .name
  | keyword word => cases word <;> cases h <;> constructor
  | symbol => cases h
  | endOfInput => cases h

theorem literal_sound : Sound (literal (σ := σ)) LiteralForm := by
  intro ts rest value h
  simp only [literal, bind_eq_ok, tokenThat_eq_ok, pure_apply] at h
  obtain ⟨found, _, ⟨t, hmeaning, rfl⟩, ⟨⟩⟩ := h
  exact ⟨[⟨t, found.place⟩], rfl, literalForm_of_literalOf? hmeaning found.place⟩

theorem arguments_sound : Sound (arguments (σ := σ)) ArgumentsForm := by
  intro ts rest values h
  simp only [arguments, bind_eq_ok, takes_eq_ok] at h
  obtain ⟨_, ts₁, ⟨rfl, p, rfl⟩ | ⟨rfl, rfl, -⟩, h⟩ := h
  · simp only [if_true, bind_eq_ok, takes_eq_ok] at h
    obtain ⟨_, ts₂, ⟨rfl, q, rfl⟩ | ⟨rfl, rfl, -⟩, h⟩ := h
    · cases h
      exact ⟨[_, _], rfl, .empty⟩
    · simp only [Bool.false_eq_true, if_false, bind_eq_ok, symbol_eq_ok, pure_apply] at h
      obtain ⟨inner, _, hinner, q, _, rfl, ⟨⟩⟩ := h
      obtain ⟨w, rfl, hw⟩ := literal_sound.commaSeparated hinner
      exact ⟨⟨.symbol .openParen, p⟩ :: (w ++ [⟨.symbol .closeParen, q⟩]), by simp, .listed hw⟩
  · cases h
    exact ⟨[], rfl, .absent⟩

theorem annot_sound : Sound (annot (σ := σ)) AnnotForm := by
  intro ts rest a h
  simp only [annot, bind_eq_ok, symbol_eq_ok, name_eq_ok, pure_apply] at h
  obtain ⟨p, _, rfl, n, _, rfl, values, _, hvalues, ⟨⟩⟩ := h
  obtain ⟨w, rfl, hw⟩ := arguments_sound hvalues
  exact ⟨_ :: _ :: w, rfl, .mk hw⟩

/-- An annotation takes some of the tokens. -/
theorem annot_progress {ts rest : Tokens σ} {a : Annot σ} (h : annot ts = .ok (a, rest)) :
    rest.length < ts.length := by
  obtain ⟨w, rfl, ⟨-⟩⟩ := annot_sound h
  simp only [List.cons_append, List.length_cons, List.length_append]
  omega

theorem annotations_sound : Sound (annotations (σ := σ)) (Repeated AnnotForm) :=
  annot_sound.whileSeen _

/-- Annotations are read as long as they come. -/
theorem annotations_exhaustive {ts rest : Tokens σ} {as : List (Annot σ)}
    (h : annotations ts = .ok (as, rest)) : startsWith .atSign rest = false :=
  whileSeen_exhaustive annot_progress h

/-! ### Types -/

theorem arrayMark_sound : Sound (arrayMark (σ := σ)) ArrayForm := by
  intro ts rest array h
  simp only [arrayMark, bind_eq_ok, takes_eq_ok] at h
  obtain ⟨_, ts₁, ⟨rfl, p, rfl⟩ | ⟨rfl, rfl, -⟩, h⟩ := h
  · simp only [if_true, bind_eq_ok, symbol_eq_ok, pure_apply] at h
    obtain ⟨q, _, rfl, ⟨⟩⟩ := h
    exact ⟨[_, _], rfl, .present⟩
  · cases h
    exact ⟨[], rfl, .absent⟩

theorem takes_question_sound : Sound (takes (σ := σ) .question) OptionalForm := by
  intro ts rest optional h
  rcases takes_eq_ok.1 h with ⟨rfl, p, rfl⟩ | ⟨rfl, rfl, -⟩
  · exact ⟨[_], rfl, .present⟩
  · exact ⟨[], rfl, .absent⟩

/-- A list of types within a depth, in brackets, adds one level to it. -/
theorem argumentsDepth_le_of_listed {levels : Nat} {w : Tokens σ} {types : List (TypeRef σ)}
    (h : Listed (fun w t => TypeForm w t ∧ t.depth ≤ levels) w types) :
    Listed TypeForm w types ∧ TypeRef.argumentsDepth types ≤ levels + 1 := by
  induction h with
  | last only => exact ⟨.last only.1, by simp [TypeRef.argumentsDepth, only.2]⟩
  | more head _ ih =>
    refine ⟨.more head.1 ih.1, ?_⟩
    rw [TypeRef.argumentsDepth]
    exact Nat.max_le.2 ⟨Nat.succ_le_succ head.2, ih.2⟩

/-- A type is derived as it is read if its bracketed arguments are. -/
theorem typeWith_sound {inBrackets : Reader σ (List (TypeRef σ))} {levels : Nat}
    (hbrackets : ∀ {q ts rest types}, inBrackets (⟨.symbol .openAngle, q⟩ :: ts) = .ok (types, rest) →
      ∃ w r, ts = w ++ ⟨.symbol .closeAngle, r⟩ :: rest ∧ Listed TypeForm w types ∧
        TypeRef.argumentsDepth types ≤ levels) :
    Sound (typeWith inBrackets) fun w t => TypeForm w t ∧ t.depth ≤ levels := by
  intro ts rest t h
  simp only [typeWith, typeArguments, bind_eq_ok, name_eq_ok, sees, Except.ok.injEq, Prod.mk.injEq,
    pure_apply] at h
  obtain ⟨n, ts₁, rfl, types, ts₂, ⟨seen, _, ⟨hseen, rfl⟩, htypes⟩, array, ts₃, harray, optional, _,
    hoptional, rfl, rfl⟩ := h
  obtain ⟨u, rfl, hu⟩ := arrayMark_sound harray
  obtain ⟨v, rfl, hv⟩ := takes_question_sound hoptional
  cases seen with
  | true =>
    obtain ⟨q, ts₄, rfl⟩ := startsWith_eq_true.1 hseen
    obtain ⟨w, r, rfl, hw, hdepth⟩ := hbrackets htypes
    refine ⟨⟨.name n.value, n.place⟩ :: ⟨.symbol .openAngle, q⟩ ::
      (w ++ ⟨.symbol .closeAngle, r⟩ :: (u ++ v)), by simp, .generic hw hu hv, ?_⟩
    rwa [TypeRef.depth]
  | false =>
    cases htypes
    refine ⟨⟨.name n.value, n.place⟩ :: (u ++ v), by simp, .plain hu hv, ?_⟩
    simp [TypeRef.depth, TypeRef.argumentsDepth]

/-- A type that is read within some levels has no more levels than these. -/
theorem type_sound (levels : Nat) :
    Sound (type (σ := σ) levels) fun w t => TypeForm w t ∧ t.depth ≤ levels := by
  induction levels with
  | zero => exact typeWith_sound fun h => by cases h
  | succ levels ih =>
    refine typeWith_sound ?_
    intro q ts rest types h
    simp only [bind_eq_ok, takes_eq_ok, symbol_eq_ok, pure_apply] at h
    obtain ⟨_, ts₁, hopen, inner, _, hinner, r, _, rfl, ⟨⟩⟩ := h
    obtain ⟨-, _, ⟨⟩⟩ | ⟨-, rfl, hnot⟩ := hopen
    · obtain ⟨w, rfl, hw⟩ := ih.commaSeparated hinner
      exact ⟨w, r, rfl, argumentsDepth_le_of_listed hw⟩
    · simp at hnot

/-! ### Fields -/

theorem separator_sound {ts rest : Tokens σ} (h : separator ts = .ok ((), rest)) :
    ∃ w separated, ts = w ++ rest ∧ SeparatorForm w separated := by
  simp only [separator, bind_eq_ok, takes_eq_ok] at h
  obtain ⟨_, ts₁, ⟨rfl, p, rfl⟩ | ⟨rfl, rfl, -⟩, h⟩ := h
  · cases h
    exact ⟨[_], true, rfl, .semicolon⟩
  · simp only [Bool.false_eq_true, if_false, bind_eq_ok, takes_eq_ok, pure_apply] at h
    obtain ⟨_, ts₂, ⟨-, p, rfl⟩ | ⟨-, rfl, -⟩, ⟨⟩⟩ := h
    · exact ⟨[_], true, rfl, .comma⟩
    · exact ⟨[], false, rfl, .absent⟩

/-- A field is read with all annotations behind its type, so what is left is a proper continuation of
it, and its type is within the allowed depth. -/
theorem field_sound {ts rest : Tokens σ} {f : Field σ} (h : field ts = .ok (f, rest)) :
    ∃ w separated, ts = w ++ rest ∧ FieldForm separated w f ∧ greedyJoin separated rest ∧
      f.type.depth ≤ maxTypeDepth := by
  simp only [field, bind_eq_ok, name_eq_ok, symbol_eq_ok, pure_apply] at h
  obtain ⟨front, _, hfront, n, _, rfl, q, _, rfl, t, _, htype, back, _, hback, _, _, hseparator, ⟨⟩⟩ := h
  obtain ⟨u, rfl, hu⟩ := annotations_sound hfront
  obtain ⟨v, rfl, hv, hdepth⟩ := type_sound maxTypeDepth htype
  obtain ⟨w, rfl, hw⟩ := annotations_sound hback
  obtain ⟨x, separated, rfl, hx⟩ := separator_sound hseparator
  refine ⟨u ++ ⟨.name n.value, n.place⟩ :: ⟨.symbol .colon, q⟩ :: (v ++ (w ++ x)), separated,
    by simp, .mk hu hv hw hx, ?_, hdepth⟩
  -- without a separator, what is left is what the annotations behind the type left
  cases hx with
  | absent => exact .inr (annotations_exhaustive hback)
  | semicolon => exact .inl rfl
  | comma => exact .inl rfl

theorem nextField_eq_ok {ts rest : Tokens σ} {f : Field σ} (h : nextField ts = .ok (f, rest)) :
    field ts = .ok (f, rest) := by
  cases ts with
  | nil => cases h
  | cons t ts => exact h

theorem nextField_progress {ts rest : Tokens σ} {f : Field σ} (h : nextField ts = .ok (f, rest)) :
    rest.length < ts.length := by
  obtain ⟨w, separated, rfl, ⟨-⟩, -⟩ := field_sound (nextField_eq_ok h)
  simp only [List.append_assoc, List.cons_append, List.length_append, List.length_cons]
  omega

theorem startsWith_append {s : Symbol} {ws : Tokens σ} (hne : ws ≠ []) (rest : Tokens σ) :
    startsWith s (ws ++ rest) = startsWith s ws := by
  obtain ⟨⟨value, place⟩, ws, rfl⟩ := List.exists_cons_of_ne_nil hne
  cases value <;> rfl

theorem startsWith_append_of_false {s : Symbol} {ws rest : Tokens σ}
    (h : startsWith s (ws ++ rest) = false) : startsWith s ws = false := by
  by_cases hne : ws = []
  · rw [hne, startsWith_nil]
  · rwa [startsWith_append hne] at h

/-- The fields of a body are derived as they are read, each behind one that claims no annotation of it. -/
theorem body_sound {more : Tokens σ → Bool} {ts rest : Tokens σ} {fs : List (Field σ)}
    (h : whileSeen more nextField ts = .ok (fs, rest)) :
    ∃ w, ts = w ++ rest ∧ BodyForm greedyJoin w fs ∧ ∀ f ∈ fs, f.type.depth ≤ maxTypeDepth := by
  fun_induction whileSeen more nextField ts generalizing fs with
  | case1 => cases h
  | case2 => cases h
  | case3 ts _ f left hf _ gs _ hgs ih =>
    cases h
    obtain ⟨w, separated, rfl, hw, hjoin, hdepth⟩ := field_sound (nextField_eq_ok hf)
    obtain ⟨ws, rfl, hws, hdepths⟩ := ih hgs
    refine ⟨w ++ ws, by simp, .cons hw ?_ hws, by simp_all⟩
    exact hjoin.imp_right startsWith_append_of_false
  | case4 ts _ f left hf =>
    cases h
    obtain ⟨w, separated, rfl, hw, -, hdepth⟩ := field_sound (nextField_eq_ok hf)
    exact ⟨w ++ [], by simp, .cons hw (.inr rfl) .nil, by simpa using hdepth⟩
  | case5 =>
    cases h
    exact ⟨[], rfl, .nil, by simp⟩

theorem fields_sound {ts rest : Tokens σ} {fs : List (Field σ)} (h : fields ts = .ok (fs, rest)) :
    ∃ w p, ts = w ++ ⟨.symbol .closeBrace, p⟩ :: rest ∧ BodyForm greedyJoin w fs ∧
      ∀ f ∈ fs, f.type.depth ≤ maxTypeDepth := by
  simp only [fields, bind_eq_ok, symbol_eq_ok, pure_apply] at h
  obtain ⟨gs, _, hgs, p, _, rfl, ⟨⟩⟩ := h
  obtain ⟨w, rfl, hw, hdepth⟩ := body_sound hgs
  exact ⟨w, p, rfl, hw, hdepth⟩

/-! ### Declarations -/

theorem kindForm_of_kindOf? {word : Token} {kind : DeclarationKind} (h : kindOf? word = some kind) :
    KindForm word kind := by
  unfold kindOf? at h
  split at h <;> cases h <;> constructor

theorem logicalName_eq_ok {ts rest : Tokens σ} {s : String} (h : logicalName ts = .ok (s, rest)) :
    s ≠ "" ∧ ∃ p, ts = ⟨.string s, p⟩ :: rest := by
  rw [logicalName_eq] at h
  cases ts with
  | nil => cases h
  | cons t left =>
    obtain ⟨value, p⟩ := t
    cases value with
    | string text =>
      by_cases hempty : text.isEmpty
      · simp [logicalNameOf?, hempty] at h
      · obtain ⟨rfl, rfl⟩ : text = s ∧ left = rest := by simpa [logicalNameOf?, hempty] using h
        exact ⟨by simpa using hempty, p, rfl⟩
    | _ => simp [logicalNameOf?] at h

/-- A logical name is derived as it is read. It is empty only if it is the structural name and that one
is. -/
theorem nameClause_sound {structural : String} {ts rest : Tokens σ} {s : String}
    (h : nameClause structural ts = .ok (s, rest)) :
    ∃ w, ts = w ++ rest ∧ NameClauseForm structural w s ∧ (structural ≠ "" → s ≠ "") := by
  unfold nameClause at h
  split at h
  · rename_i p left
    obtain ⟨hne, q, rfl⟩ := logicalName_eq_ok h
    exact ⟨[_, _], rfl, .given, fun _ => hne⟩
  · cases h
    exact ⟨[], rfl, .absent, id⟩

theorem declaration_sound : Sound (declaration (σ := σ)) fun w d =>
    DeclarationForm greedyJoin w d ∧ (d.name ≠ "" → d.WithinLimits) := by
  intro ts rest d h
  simp only [declaration, bind_eq_ok, tokenThat_eq_ok, name_eq_ok, symbol_eq_ok, pure_apply] at h
  obtain ⟨front, _, hfront, kind, _, ⟨word, hword, rfl⟩, n, _, rfl, logical, _, hlogical, r, _, rfl, fs,
    _, hfields, ⟨⟩⟩ := h
  obtain ⟨u, rfl, hu⟩ := annotations_sound hfront
  obtain ⟨v, rfl, hv, hne⟩ := nameClause_sound hlogical
  obtain ⟨w, s, rfl, hw, hdepth⟩ := fields_sound hfields
  refine ⟨u ++ ⟨word, kind.place⟩ :: ⟨.name n.value, n.place⟩ ::
    (v ++ ⟨.symbol .openBrace, r⟩ :: (w ++ [⟨.symbol .closeBrace, s⟩])), by simp,
    .mk hu (kindForm_of_kindOf? hword) hv hw, ?_⟩
  intro hn
  exact ⟨hne hn, hdepth⟩

theorem declaration_progress {ts rest : Tokens σ} {d : Declaration σ}
    (h : declaration ts = .ok (d, rest)) : rest.length < ts.length := by
  obtain ⟨w, rfl, ⟨-⟩, -⟩ := declaration_sound h
  simp only [List.append_assoc, List.cons_append, List.length_append, List.length_cons]
  omega

/-- The structural name of a declaration is one of its tokens. -/
theorem name_mem_of_declarationForm {join : Join σ} {w : Tokens σ} {d : Declaration σ}
    (h : DeclarationForm join w d) : ∃ p, ⟨.name d.name, p⟩ ∈ w := by
  cases h with
  | mk => exact ⟨_, List.mem_append_right _ (.tail _ (.head _))⟩

/-- Declarations are read to the end. -/
theorem declarations_exhaustive {ts rest : Tokens σ} {ds : List (Declaration σ)}
    (h : declarations ts = .ok (ds, rest)) : rest = [] := by
  have hempty : (!rest.isEmpty) = false := whileSeen_exhaustive declaration_progress h
  simpa using hempty

/-- If no name among the tokens is empty, the declarations that are read are derived by the grammar and
within its limits. -/
theorem declarations_sound {ts rest : Tokens σ} {ds : List (Declaration σ)}
    (h : declarations ts = .ok (ds, rest)) (hnames : ∀ t ∈ ts, t.value ≠ .name "") :
    rest = [] ∧ UnitForm greedyJoin ts ⟨ds⟩ ∧ Schema.WithinLimits ⟨ds⟩ := by
  have hrest := declarations_exhaustive h
  obtain ⟨w, rfl, hw⟩ := declaration_sound.whileSeen _ h
  rw [hrest, List.append_nil] at hnames ⊢
  clear h hrest
  refine ⟨rfl, ?_⟩
  induction hw with
  | nil => exact ⟨.nil, by simp [Schema.WithinLimits]⟩
  | @cons w ws d ds head tail ih =>
    obtain ⟨hds, hlimits⟩ := ih fun t ht => hnames t (List.mem_append_right _ ht)
    obtain ⟨p, hp⟩ := name_mem_of_declarationForm head.1
    have hname : d.name ≠ "" := fun hd => hnames _ (List.mem_append_left _ hp) (by rw [hd])
    refine ⟨.cons head.1 hds, ?_⟩
    intro d' hd'
    rcases List.mem_cons.1 hd' with rfl | hd'
    · exact head.2 hname
    · exact hlimits d' hd'

end Reader

end ModelIdl
