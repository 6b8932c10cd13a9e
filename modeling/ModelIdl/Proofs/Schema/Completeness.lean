import ModelIdl.Proofs.Schema.Grammar

/-!
# ModelIdl.Proofs.Schema.Completeness

What the grammar derives is read by the parser. A reader takes as much as it can, so each is *complete*
for the relation of its rule where the tokens behind do not go on with an optional part of the rule
(`Reader.Complete`). Behind a field that is derived under `greedyJoin` they never do, and behind a
declaration anything may stand.
-/

namespace ModelIdl

open Grammar

namespace Reader

variable {σ α : Type}

/-- None of the symbols is the first token. -/
def Stops (marks : List Symbol) (ts : Tokens σ) : Prop :=
  ∀ s ∈ marks, startsWith s ts = false

/-- Tokens that are related to a value are read as that value, unless one of the symbols follows. -/
def Complete (read : Reader σ α) (form : Tokens σ → α → Prop) (marks : List Symbol) : Prop :=
  ∀ {w rest : Tokens σ} {a : α}, form w a → Stops marks rest → read (w ++ rest) = .ok (a, rest)

theorem stops_symbol {marks : List Symbol} {s : Symbol} (h : s ∉ marks) (p : σ) (rest : Tokens σ) :
    Stops marks (⟨.symbol s, p⟩ :: rest) := by
  intro mark hmark
  have hne : s ≠ mark := fun heq => h (heq ▸ hmark)
  simpa using hne

theorem stops_name (marks : List Symbol) (n : String) (p : σ) (rest : Tokens σ) :
    Stops marks (⟨.name n, p⟩ :: rest) := fun _ _ => rfl

theorem Stops.mono {marks marks' : List Symbol} {ts : Tokens σ} (h : Stops marks ts)
    (hsub : marks' ⊆ marks) : Stops marks' ts := fun s hs => h s (hsub hs)

/-! ### Repetition -/

/-- What is derived one behind the other is read so, if each part is read where the next parts or the
end follow. -/
theorem whileSeen_complete {read : Reader σ α} {form : Tokens σ → α → Prop} {more : Tokens σ → Bool}
    {rest : Tokens σ}
    (hread : ∀ {w ws a as}, form w a → Repeated form ws as →
      read (w ++ (ws ++ rest)) = .ok (a, ws ++ rest))
    (hmore : ∀ {w a} (behind : Tokens σ), form w a → more (w ++ behind) = true)
    (hne : ∀ {w a}, form w a → w ≠ []) (hstop : more rest = false) {w : Tokens σ} {as : List α}
    (h : Repeated form w as) : whileSeen more read (w ++ rest) = .ok (as, rest) := by
  induction h with
  | nil => exact whileSeen_of_not_more hstop
  | @cons w ws a as head tail ih =>
    have hlt : (ws ++ rest).length < (w ++ (ws ++ rest)).length := by
      have := List.length_pos_iff.2 (hne head)
      simp only [List.length_append]
      omega
    rw [List.append_assoc]
    exact whileSeen_of_ok (hmore _ head) (hread head tail) hlt ih

theorem Complete.commaSeparated {read : Reader σ α} {form : Tokens σ → α → Prop}
    {marks : List Symbol} (hread : Complete read form marks) (hcomma : Symbol.comma ∉ marks) :
    Complete (commaSeparated read) (Listed form) (.comma :: marks) := by
  intro w rest as h hstop
  induction h with
  | last only =>
    have hnot : startsWith .comma rest = false := hstop .comma (.head _)
    exact commaSeparated_of_last (hread only fun s hs => hstop s (.tail _ hs)) hnot
  | @more w ws a as p head tail ih =>
    have hhead := hread head (stops_symbol hcomma p (ws ++ rest))
    rw [List.append_assoc, List.cons_append, commaSeparated_of_comma hhead, ih]

/-! ### Annotations -/

theorem literal_complete : Complete (literal (σ := σ)) LiteralForm [] := by
  intro w rest value h _
  cases h <;> rfl

theorem arguments_complete : Complete (arguments (σ := σ)) ArgumentsForm [.openParen] := by
  intro w rest values h hstop
  cases h with
  | absent =>
    rw [arguments, List.nil_append, bind_of_ok (takes_of_not_startsWith (hstop _ (.head _)))]
    rfl
  | empty => rfl
  | @listed w values p q inner =>
    have hclose : Stops [.comma] (⟨.symbol .closeParen, q⟩ :: rest) := stops_symbol (by decide) q rest
    have hfirst : startsWith .closeParen (w ++ ⟨.symbol .closeParen, q⟩ :: rest) = false := by
      cases inner with
      | last only => cases only <;> rfl
      | more head => cases head <;> rfl
    rw [List.cons_append, List.append_assoc, List.singleton_append]
    simp only [arguments, bind_eq_ok, takes_eq_ok]
    refine ⟨true, _, .inl ⟨rfl, p, rfl⟩, ?_⟩
    simp only [if_true, bind_eq_ok, takes_eq_ok]
    refine ⟨false, _, .inr ⟨rfl, rfl, hfirst⟩, ?_⟩
    simp only [Bool.false_eq_true, if_false, bind_eq_ok, symbol_eq_ok]
    exact ⟨_, _, literal_complete.commaSeparated (by simp) inner hclose, q, _, rfl, rfl⟩

theorem annot_complete : Complete (annot (σ := σ)) AnnotForm [.openParen] := by
  intro w rest a h hstop
  cases h with
  | @mk w values n p q inner =>
    simp only [annot, bind_eq_ok, symbol_eq_ok, name_eq_ok]
    exact ⟨p, _, rfl, ⟨n, q⟩, _, rfl, values, _, arguments_complete inner hstop, rfl⟩

theorem annotations_complete :
    Complete (annotations (σ := σ)) (Repeated AnnotForm) [.atSign, .openParen] := by
  intro w rest as h hstop
  refine whileSeen_complete ?_ ?_ ?_ (hstop _ (.head _)) h
  · intro w ws a as head tail
    refine annot_complete head ?_
    cases tail with
    | nil => exact hstop.mono (by simp)
    | cons next _ => cases next with | mk => exact stops_symbol (by decide) _ _
  · rintro w a behind ⟨-⟩
    rfl
  · rintro w a ⟨-⟩
    simp

/-! ### Types -/

theorem arrayMark_complete : Complete (arrayMark (σ := σ)) ArrayForm [.openBracket] := by
  intro w rest array h hstop
  cases h with
  | absent =>
    rw [arrayMark, List.nil_append, bind_of_ok (takes_of_not_startsWith (hstop _ (.head _)))]
    rfl
  | present => rfl

theorem takes_question_complete :
    Complete (takes (σ := σ) .question) OptionalForm [.question] := by
  intro w rest optional h hstop
  cases h with
  | absent => exact takes_of_not_startsWith (hstop _ (.head _))
  | present => rfl

/-- Behind a type name or its arguments no angle bracket opens. -/
theorem stops_marks {u v rest : Tokens σ} {array optional : Bool} (hu : ArrayForm u array)
    (hv : OptionalForm v optional) (hstop : Stops [.openAngle, .openBracket, .question] rest) :
    Stops [.openBracket] (v ++ rest) ∧ Stops [.openAngle] (u ++ (v ++ rest)) := by
  constructor
  · cases hv with
    | absent => exact hstop.mono (by simp)
    | present => exact stops_symbol (by decide) _ _
  · cases hu with
    | present => exact stops_symbol (by decide) _ _
    | absent =>
      cases hv with
      | absent => exact hstop.mono (by simp)
      | present => exact stops_symbol (by decide) _ _

/-- The types of a list are no deeper than the list makes them. -/
theorem listed_of_argumentsDepth_le {levels : Nat} {w : Tokens σ} {types : List (TypeRef σ)}
    (h : Listed TypeForm w types) (hdepth : TypeRef.argumentsDepth types ≤ levels + 1) :
    Listed (fun w t => TypeForm w t ∧ t.depth ≤ levels) w types := by
  induction h with
  | last only =>
    simp only [TypeRef.argumentsDepth] at hdepth
    exact .last ⟨only, by omega⟩
  | more head _ ih =>
    simp only [TypeRef.argumentsDepth] at hdepth
    exact .more ⟨head, by omega⟩ (ih (by omega))

/-- A type with arguments is at least one level deep. -/
theorem argumentsDepth_pos {w : Tokens σ} {types : List (TypeRef σ)} (h : Listed TypeForm w types) :
    0 < TypeRef.argumentsDepth types := by
  cases h <;> simp only [TypeRef.argumentsDepth] <;> omega

/-- A type is read as it is derived if its bracketed arguments are. -/
theorem typeWith_complete {inBrackets : Reader σ (List (TypeRef σ))} {levels : Nat}
    (hbrackets : ∀ {w types q r} (rest : Tokens σ), Listed TypeForm w types →
      TypeRef.argumentsDepth types ≤ levels →
      inBrackets (⟨.symbol .openAngle, q⟩ :: (w ++ ⟨.symbol .closeAngle, r⟩ :: rest)) =
        .ok (types, rest)) :
    Complete (typeWith inBrackets) (fun w t => TypeForm w t ∧ t.depth ≤ levels)
      [.openAngle, .openBracket, .question] := by
  intro w rest t hform hstop
  obtain ⟨h, hdepth⟩ := hform
  have hquestion : Stops [.question] rest := hstop.mono (by simp)
  simp only [typeWith, typeArguments, bind_eq_ok, name_eq_ok]
  cases h with
  | @plain u v n array optional p mark tail =>
    obtain ⟨hbracket, hangle⟩ := stops_marks mark tail hstop
    refine ⟨⟨n, p⟩, _, rfl, [], u ++ (v ++ rest), ⟨false, u ++ (v ++ rest), ?_, rfl⟩, array,
      v ++ rest, arrayMark_complete mark hbracket, optional, rest,
      takes_question_complete tail hquestion, rfl⟩
    simpa [sees] using hangle _ (.head _)
  | @generic w u v n types array optional p q r inner mark tail =>
    obtain ⟨hbracket, -⟩ := stops_marks mark tail hstop
    rw [TypeRef.depth] at hdepth
    refine ⟨⟨n, p⟩, _, rfl, types, u ++ (v ++ rest), ⟨true, _, rfl, ?_⟩, array, v ++ rest,
      arrayMark_complete mark hbracket, optional, rest, takes_question_complete tail hquestion, rfl⟩
    simpa using hbrackets (u ++ (v ++ rest)) inner hdepth

/-- A type that is no deeper than some levels is read within these. -/
theorem type_complete (levels : Nat) :
    Complete (type (σ := σ) levels) (fun w t => TypeForm w t ∧ t.depth ≤ levels)
      [.openAngle, .openBracket, .question] := by
  induction levels with
  | zero =>
    refine typeWith_complete ?_
    intro w types q r rest inner hdepth
    have := argumentsDepth_pos inner
    omega
  | succ levels ih =>
    refine typeWith_complete ?_
    intro w types q r rest inner hdepth
    simp only [bind_eq_ok, takes_eq_ok, symbol_eq_ok]
    have hclose : Stops [.comma, .openAngle, .openBracket, .question]
        (⟨.symbol .closeAngle, r⟩ :: rest) := stops_symbol (by decide) r rest
    exact ⟨true, _, .inl ⟨rfl, q, rfl⟩, types, _, ih.commaSeparated (by decide)
      (listed_of_argumentsDepth_le inner hdepth) hclose, r, rest, rfl, rfl⟩

/-! ### Fields -/

/-- The symbols with which a field could go on. -/
def fieldMarks : List Symbol :=
  [.atSign, .openParen, .openAngle, .openBracket, .question, .semicolon, .comma]

theorem separator_complete {x rest : Tokens σ} {separated : Bool} (h : SeparatorForm x separated)
    (hstop : separated = true ∨ Stops fieldMarks rest) :
    separator (x ++ rest) = .ok ((), rest) := by
  cases h with
  | absent =>
    have hmarks : Stops fieldMarks rest := by simpa using hstop
    have hsemicolon := takes_of_not_startsWith (hmarks .semicolon (by decide))
    have hcomma := takes_of_not_startsWith (hmarks .comma (by decide))
    rw [separator, List.nil_append, bind_of_ok hsemicolon]
    simp only [Bool.false_eq_true, if_false, bind_of_ok hcomma, pure_apply]
  | semicolon => rfl
  | comma => rfl

theorem field_complete {separated : Bool} {w rest : Tokens σ} {f : Field σ}
    (h : FieldForm separated w f) (hdepth : f.type.depth ≤ maxTypeDepth)
    (hstop : separated = true ∨ Stops fieldMarks rest) : field (w ++ rest) = .ok (f, rest) := by
  cases h with
  | @mk u v w x front back type n separated p q before typed behind divided =>
    have hx : Stops [.atSign, .openParen, .openAngle, .openBracket, .question] (x ++ rest) := by
      cases divided with
      | absent => exact (by simpa using hstop : Stops fieldMarks rest).mono (by simp [fieldMarks])
      | semicolon => exact stops_symbol (by decide) _ _
      | comma => exact stops_symbol (by decide) _ _
    have hw : Stops [.openAngle, .openBracket, .question] (w ++ (x ++ rest)) := by
      cases behind with
      | nil => exact hx.mono (by simp)
      | cons first _ => cases first with | mk => exact stops_symbol (by decide) _ _
    have hfront := annotations_complete before
      (stops_name _ n p (⟨.symbol .colon, q⟩ :: (v ++ (w ++ (x ++ rest)))))
    simp only [field, bind_eq_ok, name_eq_ok, symbol_eq_ok]
    exact ⟨front, _, by simpa using hfront, ⟨n, p⟩, _, rfl, q, _, rfl, type, _,
      type_complete maxTypeDepth ⟨typed, hdepth⟩ hw, back, _,
      annotations_complete behind (hx.mono (by simp)), (), rest, separator_complete divided hstop, rfl⟩

/-- A body starts, if at all, with an annotation or a name. -/
theorem bodyForm_first {join : Join σ} {w : Tokens σ} {fs : List (Field σ)} (h : BodyForm join w fs) :
    w = [] ∨ (∃ p ws, w = ⟨.symbol .atSign, p⟩ :: ws) ∨ ∃ n p ws, w = ⟨.name n, p⟩ :: ws := by
  cases h with
  | nil => exact .inl rfl
  | cons head _ _ =>
    cases head with
    | mk before _ _ _ =>
      cases before with
      | nil => exact .inr (.inr ⟨_, _, _, rfl⟩)
      | cons first _ => cases first with | mk => exact .inr (.inl ⟨_, _, rfl⟩)

/-- Behind a field that claims the annotations behind it, no body goes on with the field. -/
theorem stops_fieldMarks {join : Join σ} {ws rest : Tokens σ} {fs : List (Field σ)} {p : σ}
    (h : BodyForm join ws fs) (hat : startsWith .atSign ws = false) :
    Stops fieldMarks (ws ++ ⟨.symbol .closeBrace, p⟩ :: rest) := by
  rcases bodyForm_first h with rfl | ⟨q, ws, rfl⟩ | ⟨n, q, ws, rfl⟩
  · exact stops_symbol (by decide) _ _
  · simp at hat
  · exact stops_name _ _ _ _

/-- A body is read up to its closing brace. -/
theorem body_complete {w rest : Tokens σ} {fs : List (Field σ)} {p : σ} (h : BodyForm greedyJoin w fs)
    (hdepth : ∀ f ∈ fs, f.type.depth ≤ maxTypeDepth) :
    whileSeen (fun ts => !startsWith .closeBrace ts) nextField (w ++ ⟨.symbol .closeBrace, p⟩ :: rest) =
      .ok (fs, ⟨.symbol .closeBrace, p⟩ :: rest) := by
  induction h with
  | nil => rw [List.nil_append, whileSeen]; rfl
  | @cons w ws f fs separated head joined tail ih =>
    have hstop : separated = true ∨
        Stops fieldMarks (ws ++ ⟨.symbol .closeBrace, p⟩ :: rest) :=
      joined.imp_right (stops_fieldMarks tail)
    have hfield := field_complete head (hdepth f (.head _)) hstop
    obtain ⟨t, w, rfl⟩ : ∃ t v, w = t :: v := by
      cases head with
      | mk before _ _ _ =>
        cases before with
        | nil => exact ⟨_, _, rfl⟩
        | cons first _ => cases first with | mk => exact ⟨_, _, rfl⟩
    have hmore : startsWith .closeBrace (t :: w ++ (ws ++ ⟨.symbol .closeBrace, p⟩ :: rest)) = false := by
      rcases bodyForm_first (.cons head joined tail) with h | ⟨q, v, h⟩ | ⟨n, q, v, h⟩ <;> cases h <;> rfl
    have hlt : (ws ++ ⟨.symbol .closeBrace, p⟩ :: rest).length <
        (t :: w ++ (ws ++ ⟨.symbol .closeBrace, p⟩ :: rest)).length := by
      simp only [List.cons_append, List.length_cons, List.length_append]
      omega
    rw [List.append_assoc, whileSeen, hmore]
    simp only [Bool.not_false, if_true, List.cons_append, nextField] at hfield hlt ⊢
    rw [hfield]
    simp only [hlt, if_true, ih fun g hg => hdepth g (.tail _ hg)]

/-! ### Declarations -/

theorem kindOf?_of_kindForm {word : Token} {kind : DeclarationKind} (h : KindForm word kind) :
    kindOf? word = some kind := by
  cases h <;> rfl

theorem nameClause_complete {structural s : String} {v rest : Tokens σ} {p : σ}
    (h : NameClauseForm structural v s) (hne : s ≠ "") :
    nameClause structural (v ++ ⟨.symbol .openBrace, p⟩ :: rest) =
      .ok (s, ⟨.symbol .openBrace, p⟩ :: rest) := by
  cases h with
  | absent => rfl
  | given =>
    have hmeaning : logicalNameOf? (.string s) = some s := by simp [logicalNameOf?, hne]
    simp [nameClause, logicalName, tokenThat, hmeaning, bind, Except.bind, pure, Except.pure]

/-- A declaration is read up to its closing brace, whatever stands behind. -/
theorem declaration_complete : Complete (declaration (σ := σ))
    (fun w d => DeclarationForm greedyJoin w d ∧ d.WithinLimits) [] := by
  intro w rest d hform _
  obtain ⟨h, hlimits⟩ := hform
  cases h with
  | @mk u v w front word kind n logical fs p q r s before opened named body =>
    have hfirst : Stops [.atSign, .openParen] (⟨word, p⟩ :: ⟨.name n, q⟩ :: (v ++
        ⟨.symbol .openBrace, r⟩ :: (w ++ ⟨.symbol .closeBrace, s⟩ :: rest))) := by
      cases opened <;> exact fun _ _ => rfl
    have hfront := annotations_complete before hfirst
    simp only [declaration, fields, bind_eq_ok, tokenThat_eq_ok, name_eq_ok, symbol_eq_ok]
    exact ⟨front, _, by simpa using hfront, ⟨kind, p⟩, _, ⟨word, kindOf?_of_kindForm opened, rfl⟩,
      ⟨n, q⟩, _, rfl, logical, _, nameClause_complete named hlimits.named, r, _, rfl, fs, rest,
      ⟨fs, _, body_complete body hlimits.shallow, s, rest, rfl, rfl⟩, rfl⟩

/-- What the grammar derives within its limits is read, and then what is behind it. -/
theorem declarations_append {w : Tokens σ} {u : Schema σ} (h : UnitForm greedyJoin w u)
    (hlimits : u.WithinLimits) (more : Tokens σ) :
    declarations (w ++ more) =
      match declarations more with
      | .error e => .error e
      | .ok (ds, rest) => .ok (u.declarations ++ ds, rest) := by
  unfold UnitForm at h
  unfold Schema.WithinLimits at hlimits
  generalize u.declarations = ds at h hlimits
  induction h with
  | nil =>
    rw [List.nil_append]
    cases declarations more <;> rfl
  | @cons w ws d ds head tail ih =>
    have hread : declaration (w ++ (ws ++ more)) = .ok (d, ws ++ more) :=
      declaration_complete ⟨head, hlimits d (.head _)⟩ fun _ hs => by cases hs
    have hne : w ≠ [] := by
      cases head
      simp
    have hlt : (ws ++ more).length < (w ++ (ws ++ more)).length := by
      have := List.length_pos_iff.2 hne
      simp only [List.length_append]
      omega
    have hmore : (w ++ (ws ++ more)).isEmpty = false := by simp [hne]
    have hrest := ih fun d hd => hlimits d (.tail _ hd)
    unfold declarations at hrest ⊢
    rw [List.append_assoc, whileSeen]
    simp only [hmore, Bool.not_false, if_true, hread, hlt, hrest]
    cases whileSeen (fun ts => !ts.isEmpty) declaration more <;> rfl

/-- What the grammar derives within its limits is read to the end. -/
theorem declarations_complete {w : Tokens σ} {u : Schema σ} (h : UnitForm greedyJoin w u)
    (hlimits : u.WithinLimits) : declarations w = .ok (u.declarations, []) := by
  have hread := declarations_append h hlimits []
  have hend : declarations ([] : Tokens σ) = .ok ([], []) := by
    rw [declarations, whileSeen]
    rfl
  simpa [hend] using hread

end Reader

end ModelIdl
