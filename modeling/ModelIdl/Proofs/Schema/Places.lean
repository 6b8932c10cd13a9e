import ModelIdl.Proofs.Token.Displacement
import ModelIdl.Schema.Parser

/-!
# ModelIdl.Proofs.Schema.Places

Parsing does not look at places. The same tokens at other places give the same schema or the same error
at those places (`Schema.ofStream_map`). Every reader passes places on (`Reader.Follows`), which the
combinators keep.
-/

namespace ModelIdl

variable {σ τ α β γ δ : Type}

/-- The same refusal at another kind of place. -/
def Rejection.map (f : σ → τ) (r : Rejection σ) : Rejection τ :=
  ⟨r.expected, r.remaining.map (·.map f)⟩

namespace Reader

/-- The same outcome at another kind of place, with the value changed along. -/
def relocated (f : σ → τ) (g : α → β) :
    Except (Rejection σ) (α × Tokens σ) → Except (Rejection τ) (β × Tokens τ)
  | .error e => .error (e.map f)
  | .ok (a, rest) => .ok (g a, rest.map (·.map f))

/-- At other places, the second reader does what the first does. -/
def Follows (f : σ → τ) (g : α → β) (read : Reader σ α) (read' : Reader τ β) : Prop :=
  ∀ ts : Tokens σ, read' (ts.map (·.map f)) = relocated f g (read ts)

variable {f : σ → τ} {g : α → β}

/-! ### One after the other -/

theorem follows_pure (a : α) : Follows f g (pure a) (pure (g a)) := fun _ => rfl

theorem follows_reject (expected : Expectation) :
    Follows f g (reject expected) (reject expected) := fun _ => rfl

theorem Follows.bind {read : Reader σ α} {read' : Reader τ β} {next : α → Reader σ γ}
    {next' : β → Reader τ δ} {h : γ → δ} (hread : Follows f g read read')
    (hnext : ∀ a, Follows f h (next a) (next' (g a))) :
    Follows f h (read >>= next) (read' >>= next') := by
  intro ts
  simp only [Bind.bind, hread ts]
  cases read ts with
  | error e => rfl
  | ok r => exact hnext r.1 r.2

theorem Follows.ite {read₁ read₂ : Reader σ α} {read₁' read₂' : Reader τ β} (c : Bool)
    (h₁ : Follows f g read₁ read₁') (h₂ : Follows f g read₂ read₂') :
    Follows f g (if c then read₁ else read₂) (if c then read₁' else read₂') := by
  cases c with
  | true => exact h₁
  | false => exact h₂

/-! ### Single tokens -/

theorem startsWith_map (s : Symbol) (ts : Tokens σ) :
    startsWith s (ts.map (·.map f)) = startsWith s ts := by
  cases ts with
  | nil => rfl
  | cons t ts =>
    obtain ⟨value, place⟩ := t
    cases value <;> rfl

theorem follows_tokenThat (meaning : Token → Option α) (expected : Expectation) :
    Follows f (Placed.map f) (tokenThat meaning expected) (tokenThat meaning expected) := by
  intro ts
  cases ts with
  | nil => rfl
  | cons t ts =>
    obtain ⟨value, place⟩ := t
    simp only [List.map_cons, tokenThat, Placed.map]
    cases meaning value <;> rfl

theorem follows_symbol (s : Symbol) (expected : Expectation) :
    Follows f f (symbol s expected) (symbol s expected) :=
  (follows_tokenThat _ expected).bind fun found => follows_pure found.place

theorem follows_name (expected : Expectation) :
    Follows f (Placed.map f) (name expected) (name expected) :=
  follows_tokenThat _ expected

theorem follows_sees (s : Symbol) : Follows f id (sees s) (sees s) := by
  intro ts
  simp only [sees, startsWith_map]
  rfl

theorem follows_takes (s : Symbol) : Follows f id (takes s) (takes s) := by
  intro ts
  simp only [takes, startsWith_map]
  cases startsWith s ts with
  | true => simp [relocated]
  | false => rfl

/-! ### Repetition -/

theorem Follows.whileSeen {read : Reader σ α} {read' : Reader τ β} {more : Tokens σ → Bool}
    {more' : Tokens τ → Bool} (hread : Follows f g read read')
    (hmore : ∀ ts : Tokens σ, more' (ts.map (·.map f)) = more ts) :
    Follows f (List.map g) (whileSeen more read) (whileSeen more' read') := by
  intro ts
  fun_induction Reader.whileSeen more read ts with
  | case1 ts hseen e he =>
    exact whileSeen_of_refusal (by rw [hmore, hseen]) (by rw [hread, he]; rfl)
  | case2 ts hseen a rest ha hlt e he ih =>
    rw [he] at ih
    exact whileSeen_of_error (by rw [hmore, hseen]) (by rw [hread, ha]; rfl) (by simpa using hlt) ih
  | case3 ts hseen a rest ha hlt as left has ih =>
    rw [has] at ih
    exact whileSeen_of_ok (by rw [hmore, hseen]) (by rw [hread, ha]; rfl) (by simpa using hlt) ih
  | case4 ts hseen a rest ha hlt =>
    rw [Reader.whileSeen, hmore, hseen, hread ts, ha]
    simp only [relocated, List.length_map, hlt, if_true, if_false, List.map_cons, List.map_nil]
  | case5 ts hseen =>
    exact whileSeen_of_not_more (by rw [hmore]; simpa using hseen)

theorem Follows.commaSeparated {read : Reader σ α} {read' : Reader τ β}
    (hread : Follows f g read read') :
    Follows f (List.map g) (commaSeparated read) (commaSeparated read') := by
  intro ts
  fun_induction Reader.commaSeparated read ts with
  | case1 ts e he =>
    rw [Reader.commaSeparated, hread ts, he]
    rfl
  | case2 ts a rest ha hcomma e he ih =>
    rw [Reader.commaSeparated, hread ts, ha]
    simp only [relocated, startsWith_map, ← List.map_tail, List.length_map, hcomma, if_true, ih, he,
      and_self]
  | case3 ts a rest ha hcomma as left has ih =>
    rw [Reader.commaSeparated, hread ts, ha]
    simp only [relocated, startsWith_map, ← List.map_tail, List.length_map, hcomma, if_true, ih, has,
      and_self, List.map_cons]
  | case4 ts a rest ha hcomma =>
    rw [Reader.commaSeparated, hread ts, ha]
    simp only [relocated, startsWith_map, ← List.map_tail, List.length_map, hcomma, if_false,
      List.map_cons, List.map_nil]

/-! ### Annotations and types -/

theorem follows_literal : Follows f id literal literal :=
  (follows_tokenThat literalOf? .literal).bind fun found => follows_pure found.value

theorem follows_arguments : Follows f (List.map id) arguments arguments := by
  refine (follows_takes .openParen).bind fun opened => .ite opened ?_ (follows_pure [])
  refine (follows_takes .closeParen).bind fun closed => .ite closed (follows_pure []) ?_
  exact follows_literal.commaSeparated.bind fun values =>
    (follows_symbol .closeParen .closeParen).bind fun _ => follows_pure values

theorem follows_annot : Follows f (Annot.map f) annot annot := by
  refine (follows_symbol .atSign .atSign).bind fun place => ?_
  refine (follows_name .annotationName).bind fun name => ?_
  refine follows_arguments.bind fun values => ?_
  have := follows_pure (f := f) (g := Annot.map f) (⟨name.value, values, place⟩ : Annot σ)
  simpa [Annot.map, Placed.map] using this

theorem follows_annotations : Follows f (List.map (Annot.map f)) annotations annotations :=
  follows_annot.whileSeen fun ts => startsWith_map .atSign ts

theorem follows_arrayMark : Follows f id arrayMark arrayMark := by
  refine (follows_takes .openBracket).bind fun opened => .ite opened ?_ (follows_pure false)
  exact (follows_symbol .closeBracket .closeBracket).bind fun _ => follows_pure true

theorem follows_typeWith {inBrackets : Reader σ (List (TypeRef σ))}
    {inBrackets' : Reader τ (List (TypeRef τ))}
    (hbrackets : Follows f (List.map (TypeRef.map f)) inBrackets inBrackets') :
    Follows f (TypeRef.map f) (typeWith inBrackets) (typeWith inBrackets') := by
  refine (follows_name .type).bind fun name => ?_
  have harguments : Follows f (List.map (TypeRef.map f)) (typeArguments inBrackets)
      (typeArguments inBrackets') :=
    (follows_sees .openAngle).bind fun seen => .ite seen hbrackets (follows_pure [])
  refine harguments.bind fun inner => ?_
  refine follows_arrayMark.bind fun array => ?_
  refine (follows_takes .question).bind fun optional => ?_
  have := follows_pure (f := f) (g := TypeRef.map f)
    (⟨name.value, inner, array, optional, name.place⟩ : TypeRef σ)
  simpa [TypeRef.map, TypeRef.mapAll_eq_map, Placed.map] using this

theorem follows_type (levels : Nat) : Follows f (TypeRef.map f) (type levels) (type levels) := by
  induction levels with
  | zero => exact follows_typeWith (follows_reject .shallowerType)
  | succ levels ih =>
    refine follows_typeWith ?_
    refine (follows_takes .openAngle).bind fun _ => ?_
    refine ih.commaSeparated.bind fun types => ?_
    exact (follows_symbol .closeAngle .closeAngle).bind fun _ => follows_pure types

/-! ### Fields and declarations -/

theorem follows_separator : Follows f id separator separator := by
  refine (follows_takes .semicolon).bind fun divided => .ite divided (follows_pure ()) ?_
  exact (follows_takes .comma).bind fun _ => follows_pure ()

theorem follows_field : Follows f (Field.map f) field field := by
  refine follows_annotations.bind fun front => ?_
  refine (follows_name .fieldName).bind fun name => ?_
  refine (follows_symbol .colon .colon).bind fun _ => ?_
  refine (follows_type maxTypeDepth).bind fun type => ?_
  refine follows_annotations.bind fun back => ?_
  refine follows_separator.bind fun _ => ?_
  have := follows_pure (f := f) (g := Field.map f)
    (⟨name.value, type, front ++ back, name.place⟩ : Field σ)
  simpa [Field.map, Placed.map] using this

theorem follows_fields : Follows f (List.map (Field.map f)) fields fields := by
  have hnext : Follows f (Field.map f) nextField nextField := by
    intro ts
    cases ts with
    | nil => rfl
    | cons t ts => exact follows_field (t :: ts)
  refine (hnext.whileSeen fun ts => by rw [startsWith_map]).bind fun fields => ?_
  exact (follows_symbol .closeBrace .fieldOrCloseBrace).bind fun _ => follows_pure fields

theorem logicalNameExpected_map (ts : Tokens σ) :
    logicalNameExpected (ts.map (·.map f)) = logicalNameExpected ts := by
  cases ts with
  | nil => rfl
  | cons t ts =>
    obtain ⟨value, place⟩ := t
    cases value <;> rfl

theorem follows_logicalName : Follows f id logicalName logicalName := by
  intro ts
  have hfound := follows_tokenThat (f := f) logicalNameOf? (logicalNameExpected ts) ts
  simp only [logicalName, logicalNameExpected_map, hfound, bind, Except.bind]
  cases tokenThat logicalNameOf? (logicalNameExpected ts) ts <;> rfl

theorem follows_nameClause (otherwise : String) :
    Follows f id (nameClause otherwise) (nameClause otherwise) := by
  intro ts
  cases ts with
  | nil => rfl
  | cons t ts =>
    obtain ⟨value, place⟩ := t
    cases value with
    | keyword k =>
      cases k with
      | as => exact follows_logicalName ts
      | _ => rfl
    | _ => rfl

theorem follows_declaration : Follows f (Declaration.map f) declaration declaration := by
  refine follows_annotations.bind fun front => ?_
  simp only [List.isEmpty_map]
  refine (follows_tokenThat kindOf? _).bind fun kind => ?_
  refine (follows_name .declarationName).bind fun name => ?_
  refine (follows_nameClause name.value).bind fun logical => ?_
  refine (follows_symbol .openBrace .openBrace).bind fun _ => ?_
  refine follows_fields.bind fun fields => ?_
  have := follows_pure (f := f) (g := Declaration.map f)
    (⟨kind.value, name.value, logical, front, fields, kind.place⟩ : Declaration σ)
  simpa [Declaration.map, Placed.map] using this

theorem follows_declarations : Follows f (List.map (Declaration.map f)) declarations declarations :=
  follows_declaration.whileSeen fun ts => by simp

end Reader

/-! ### Schemas -/

theorem Rejection.toError_map (f : σ → τ) (r : Rejection σ) (ending : Ending σ) :
    (r.map f).toError (ending.map f) = (r.toError ending).map f := by
  obtain ⟨expected, remaining⟩ := r
  cases remaining with
  | cons t ts => rfl
  | nil => cases ending <;> rfl

/-- The same tokens at other places are the same schema there, or have the same thing wrong there. -/
theorem Schema.ofStream_map (f : σ → τ) (s : TokenStream σ) :
    Schema.ofStream (s.map f) =
      match Schema.ofStream s with
      | .ok u => .ok (u.map f)
      | .error e => .error (e.map f) := by
  obtain ⟨ts, ending⟩ := s
  simp only [Schema.ofStream, TokenStream.map, Reader.follows_declarations (f := f) ts]
  cases Reader.declarations ts with
  | error r => simp only [Reader.relocated, Rejection.toError_map]
  | ok read => cases ending <;> rfl

/-- What an error says, apart from where, does not depend on its place. -/
theorem ParseError.texts_map (f : σ → τ) (e : ParseError σ) :
    (e.map f).text = e.text ∧ (e.map f).expectedText = e.expectedText ∧
      (e.map f).foundText = e.foundText ∧ (e.map f).place = f e.place := by
  cases e <;> exact ⟨rfl, rfl, rfl, rfl⟩

end ModelIdl
