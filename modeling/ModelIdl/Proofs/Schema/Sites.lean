import ModelIdl.Proofs.Schema.Grammar

/-!
# ModelIdl.Proofs.Schema.Sites

Where a tree stands among the tokens that it is derived from. Every place in a tree is that of one token,
its *site*: a declaration is placed at its keyword, a field and a type at their names, and an annotation at
its `@`. Design points:

* **Order is a sublist.** The sites of a list in the tree are a sublist of the tokens, so they are in order
  wherever the tokens are (`Grammar.Repeated.sites_sublist`). No positions are needed for that.
* **A type and all inside it** are its `parts`, each in front of its arguments, which is the order of their
  names (`Grammar.sites_sublist_of_typeForm`).
* **Stretches of tokens.** What is derived from some tokens stands `Among` them, and so among all tokens
  that these are a sublist of. Declarations have stretches of their own, one behind the other
  (`Grammar.Repeated.pairwise`).
-/

namespace ModelIdl

variable {σ α : Type}

/-! ### Sites and places -/

/-- The token that an annotation is placed at. -/
def Annot.site (a : Annot σ) : Placed σ Token :=
  ⟨.symbol .atSign, a.place⟩

namespace TypeRef

/-- The token that a type is placed at. -/
def site (t : TypeRef σ) : Placed σ Token :=
  ⟨.name t.name, t.place⟩

mutual

/-- A type and all types inside it, each in front of its arguments. -/
def parts : TypeRef σ → List (TypeRef σ)
  | ⟨name, arguments, array, optional, place⟩ =>
    ⟨name, arguments, array, optional, place⟩ :: allParts arguments

/-- The parts of types, one type behind the other. -/
def allParts : List (TypeRef σ) → List (TypeRef σ)
  | [] => []
  | t :: rest => t.parts ++ allParts rest

end

theorem parts_eq (t : TypeRef σ) : t.parts = t :: allParts t.arguments := by
  cases t
  rw [parts]

theorem allParts_eq_flatMap (ts : List (TypeRef σ)) : allParts ts = ts.flatMap parts := by
  induction ts with
  | nil => rw [allParts, List.flatMap_nil]
  | cons t rest ih => rw [allParts, ih, List.flatMap_cons]

theorem sublist_allParts (ts : List (TypeRef σ)) : ts.Sublist (allParts ts) := by
  induction ts with
  | nil => exact .slnil
  | cons t rest ih =>
    rw [allParts, parts_eq, List.cons_append]
    exact (ih.trans (List.sublist_append_right _ _)).cons_cons t

theorem mem_parts_self (t : TypeRef σ) : t ∈ t.parts := by
  rw [parts_eq]
  exact .head _

/-- A part of a type is the type or a part of one of its arguments. -/
theorem mem_parts_iff {t u : TypeRef σ} : u ∈ t.parts ↔ u = t ∨ ∃ a ∈ t.arguments, u ∈ a.parts := by
  rw [parts_eq, List.mem_cons, allParts_eq_flatMap, List.mem_flatMap]

/-- The parts of a part are among the parts of the type. -/
theorem parts_sublist_of_mem {t u : TypeRef σ} (h : u ∈ t.parts) : u.parts.Sublist t.parts := by
  induction t using byArguments with
  | step t ih =>
    rcases mem_parts_iff.1 h with rfl | ⟨a, ha, hu⟩
    · exact List.Sublist.refl _
    · have hall : a.parts.Sublist (allParts t.arguments) := by
        rw [allParts_eq_flatMap, List.flatMap_def]
        exact List.sublist_flatten_of_mem (List.mem_map_of_mem ha)
      rw [parts_eq t]
      exact ((ih a ha hu).trans hall).cons t

/-- No type inside a type is nested deeper. -/
theorem depth_le_of_mem_parts {t u : TypeRef σ} (h : u ∈ t.parts) : u.depth ≤ t.depth := by
  induction t using byArguments with
  | step t ih =>
    rcases mem_parts_iff.1 h with rfl | ⟨a, ha, hu⟩
    · exact Nat.le_refl _
    · rw [depth_eq t]
      exact Nat.le_trans (ih a ha hu) (Nat.le_of_lt (depth_lt_argumentsDepth ha))

/-- The arguments of a part, in order, are among the parts of the type. -/
theorem arguments_sublist_of_mem {t u : TypeRef σ} (h : u ∈ t.parts) :
    u.arguments.Sublist t.parts := by
  have hu : u.arguments.Sublist u.parts := by
    rw [parts_eq]
    exact (sublist_allParts u.arguments).cons u
  exact hu.trans (parts_sublist_of_mem h)

end TypeRef

/-- The token that a field is placed at. -/
def Field.site (f : Field σ) : Placed σ Token :=
  ⟨.name f.name, f.place⟩

/-- The places of a field: those of its annotations, its own, and those of its type and the types
inside it. -/
def Field.places (f : Field σ) : List σ :=
  f.annotations.map (·.place) ++ f.place :: f.type.parts.map (·.place)

/-- The keyword of a kind of declaration. -/
def DeclarationKind.keyword : DeclarationKind → Keyword
  | .model => .model
  | .embeddable => .embeddable

theorem DeclarationKind.text_keyword (k : DeclarationKind) : k.keyword.text = k.text := by
  cases k <;> rfl

/-- The token that a declaration is placed at. -/
def Declaration.site (d : Declaration σ) : Placed σ Token :=
  ⟨.keyword d.kind.keyword, d.place⟩

/-- The places of a declaration: those of its annotations, its own, and those of its fields. -/
def Declaration.places (d : Declaration σ) : List σ :=
  d.annotations.map (·.place) ++ d.place :: d.fields.flatMap (·.places)

/-- The places of a schema. -/
def Schema.places (s : Schema σ) : List σ :=
  s.declarations.flatMap (·.places)

/-! ### Lists of derived parts -/

namespace Grammar

/-- An item of a repetition is derived from some of its tokens. -/
theorem Repeated.exists_of_mem {item : Tokens σ → α → Prop} {w : Tokens σ} {as : List α}
    (h : Repeated item w as) {a : α} (ha : a ∈ as) : ∃ v, v.Sublist w ∧ item v a := by
  induction h with
  | nil => cases ha
  | @cons v ws b bs head _ ih =>
    rcases List.mem_cons.1 ha with rfl | ha
    · exact ⟨v, List.sublist_append_left _ _, head⟩
    · obtain ⟨u, hu, hitem⟩ := ih ha
      exact ⟨u, hu.trans (List.sublist_append_right _ _), hitem⟩

/-- If each item stands at one of its tokens, all of them stand at theirs in order. -/
theorem Repeated.sites_sublist {item : Tokens σ → α → Prop} {site : α → Placed σ Token}
    (hsite : ∀ {w a}, item w a → site a ∈ w) {w : Tokens σ} {as : List α} (h : Repeated item w as) :
    (as.map site).Sublist w := by
  induction h with
  | nil => exact .slnil
  | cons head _ ih => exact (List.singleton_sublist.2 (hsite head)).append ih

/-- If the tokens are ordered, what holds of items whose tokens are in that order holds of any two of a
repetition. -/
theorem Repeated.pairwise {item : Tokens σ → α → Prop} {before : Placed σ Token → Placed σ Token → Prop}
    {related : α → α → Prop} (hrelated : ∀ {u v a b}, item u a → item v b →
      (∀ t ∈ u, ∀ t' ∈ v, before t t') → related a b)
    {w : Tokens σ} {as : List α} (h : Repeated item w as) (hw : w.Pairwise before) :
    as.Pairwise related := by
  induction h with
  | nil => exact .nil
  | cons head tail ih =>
    obtain ⟨-, hws, hcross⟩ := List.pairwise_append.1 hw
    refine .cons ?_ (ih hws)
    intro b hb
    obtain ⟨v, hv, hitem⟩ := tail.exists_of_mem hb
    exact hrelated head hitem fun t ht t' ht' => hcross t ht t' (hv.subset ht')

/-- The items of a list stand at their sites in order, if each does at some of fewer tokens. -/
theorem Listed.sites_sublist {item : Tokens σ → α → Prop} {sites : α → List (Placed σ Token)}
    {w : Tokens σ} {as : List α} (h : Listed item w as)
    (hsites : ∀ {v a}, v.length ≤ w.length → item v a → (sites a).Sublist v) :
    (as.flatMap sites).Sublist w := by
  induction h with
  | last only =>
    rw [List.flatMap_singleton]
    exact hsites (Nat.le_refl _) only
  | more head _ ih =>
    rw [List.flatMap_cons]
    refine (hsites (by simp) head).append ((ih fun hle => hsites ?_).cons _)
    simp only [List.length_append, List.length_cons]
    omega

/-! ### Types -/

/-- A type and the types inside it stand at their names in order. -/
theorem sites_sublist_of_typeForm {w : Tokens σ} {t : TypeRef σ} (h : TypeForm w t) :
    (t.parts.map TypeRef.site).Sublist w := by
  -- the types in brackets are derived from fewer tokens
  induction hn : w.length using Nat.strongRecOn generalizing w t with
  | ind n ih =>
    cases h with
    | @plain u v n array optional p mark tail =>
      rw [TypeRef.parts_eq]
      exact (List.nil_sublist _).cons_cons _
    | @generic v _ _ n types array optional p q r inner mark tail =>
      have hinner : ((TypeRef.allParts types).map TypeRef.site).Sublist v := by
        rw [TypeRef.allParts_eq_flatMap, List.map_flatMap]
        refine inner.sites_sublist fun hle hitem => ih _ ?_ hitem rfl
        rw [← hn, List.length_cons, List.length_cons, List.length_append]
        omega
      rw [TypeRef.parts_eq]
      exact ((hinner.trans (List.sublist_append_left _ _)).cons _).cons_cons _

/-! ### Annotations -/

/-- Annotations stand among tokens: at their `@` signs in order, and with names that are tokens there, in
front of the arguments and in them. -/
structure AnnotsAmong (w : Tokens σ) (as : List (Annot σ)) : Prop where
  sites : (as.map Annot.site).Sublist w
  names : ∀ a ∈ as, ∃ p, ⟨.name a.name, p⟩ ∈ w
  arguments : ∀ a ∈ as, ∀ n, Literal.name n ∈ a.arguments → ∃ p, ⟨.name n, p⟩ ∈ w

theorem AnnotsAmong.mono {v w : Tokens σ} {as : List (Annot σ)} (h : AnnotsAmong v as)
    (hsub : v.Sublist w) : AnnotsAmong w as where
  sites := h.sites.trans hsub
  names a ha := (h.names a ha).imp fun _ hp => hsub.subset hp
  arguments a ha n hn := (h.arguments a ha n hn).imp fun _ hp => hsub.subset hp

theorem AnnotsAmong.append {u v : Tokens σ} {as bs : List (Annot σ)} (has : AnnotsAmong u as)
    (hbs : AnnotsAmong v bs) : AnnotsAmong (u ++ v) (as ++ bs) where
  sites := by
    rw [List.map_append]
    exact has.sites.append hbs.sites
  names a ha := by
    rcases List.mem_append.1 ha with ha | ha
    · exact (has.names a ha).imp fun _ hp => List.mem_append_left _ hp
    · exact (hbs.names a ha).imp fun _ hp => List.mem_append_right _ hp
  arguments a ha n hn := by
    rcases List.mem_append.1 ha with ha | ha
    · exact (has.arguments a ha n hn).imp fun _ hp => List.mem_append_left _ hp
    · exact (hbs.arguments a ha n hn).imp fun _ hp => List.mem_append_right _ hp

/-- Every place of the annotations is that of a token. -/
theorem AnnotsAmong.places {w : Tokens σ} {as : List (Annot σ)} (h : AnnotsAmong w as) :
    ∀ s ∈ as.map (·.place), ∃ t ∈ w, t.place = s := by
  intro s hs
  obtain ⟨a, ha, rfl⟩ := List.mem_map.1 hs
  exact ⟨a.site, h.sites.subset (List.mem_map_of_mem ha), rfl⟩

/-- A name among listed literals is one of the tokens. -/
theorem name_mem_of_listed {w : Tokens σ} {values : List Literal} (h : Listed LiteralForm w values)
    {n : String} (hn : Literal.name n ∈ values) : ∃ p, ⟨.name n, p⟩ ∈ w := by
  induction h with
  | last only =>
    obtain rfl := List.mem_singleton.1 hn
    cases only
    exact ⟨_, .head _⟩
  | more head _ ih =>
    rcases List.mem_cons.1 hn with rfl | hn
    · cases head
      exact ⟨_, .head _⟩
    · exact (ih hn).imp fun _ hp => List.mem_append_right _ (.tail _ hp)

theorem name_mem_of_argumentsForm {w : Tokens σ} {values : List Literal} (h : ArgumentsForm w values)
    {n : String} (hn : Literal.name n ∈ values) : ∃ p, ⟨.name n, p⟩ ∈ w := by
  cases h with
  | absent => cases hn
  | empty => cases hn
  | listed inner =>
    exact (name_mem_of_listed inner hn).imp fun _ hp => .tail _ (List.mem_append_left _ hp)

theorem annotsAmong_of_annotForm {w : Tokens σ} {a : Annot σ} (h : AnnotForm w a) :
    AnnotsAmong w [a] := by
  cases h with
  | @mk v values n p q inner =>
    refine ⟨List.singleton_sublist.2 (.head _), ?_, ?_⟩
    · intro a ha
      obtain rfl := List.mem_singleton.1 ha
      exact ⟨q, .tail _ (.head _)⟩
    · intro a ha n hn
      obtain rfl := List.mem_singleton.1 ha
      exact (name_mem_of_argumentsForm inner hn).imp fun _ hp => .tail _ (.tail _ hp)

/-- Annotations that are derived from some tokens stand among these. -/
theorem Repeated.annotsAmong {w : Tokens σ} {as : List (Annot σ)} (h : Repeated AnnotForm w as) :
    AnnotsAmong w as := by
  induction h with
  | nil => exact ⟨.slnil, by simp, by simp⟩
  | cons head _ ih => exact (annotsAmong_of_annotForm head).append ih

/-! ### Fields -/

/-- A field stands among tokens: at its name, with its type behind it, and with its annotations. -/
structure FieldAmong (w : Tokens σ) (f : Field σ) : Prop where
  sites : (f.site :: f.type.parts.map TypeRef.site).Sublist w
  annotations : AnnotsAmong w f.annotations

theorem FieldAmong.mono {v w : Tokens σ} {f : Field σ} (h : FieldAmong v f) (hsub : v.Sublist w) :
    FieldAmong w f :=
  ⟨h.sites.trans hsub, h.annotations.mono hsub⟩

/-- Every place of the field is that of a token. -/
theorem FieldAmong.places {w : Tokens σ} {f : Field σ} (h : FieldAmong w f) :
    ∀ s ∈ f.places, ∃ t ∈ w, t.place = s := by
  intro s hs
  rcases List.mem_append.1 hs with hs | hs
  · exact h.annotations.places s hs
  rcases List.mem_cons.1 hs with rfl | hs
  · exact ⟨f.site, h.sites.subset (.head _), rfl⟩
  · obtain ⟨t, ht, rfl⟩ := List.mem_map.1 hs
    exact ⟨t.site, h.sites.subset (.tail _ (List.mem_map_of_mem ht)), rfl⟩

theorem fieldAmong_of_fieldForm {separated : Bool} {w : Tokens σ} {f : Field σ}
    (h : FieldForm separated w f) : FieldAmong w f := by
  cases h with
  | @mk u v x y front back type n _ p q before typed behind divided =>
    have htype : (type.parts.map TypeRef.site).Sublist (v ++ (x ++ y)) :=
      (sites_sublist_of_typeForm typed).trans (List.sublist_append_left _ _)
    have hback : AnnotsAmong (⟨.name n, p⟩ :: ⟨.symbol .colon, q⟩ :: (v ++ (x ++ y))) back := by
      refine behind.annotsAmong.mono ?_
      exact (((List.sublist_append_left x y).trans (List.sublist_append_right v _)).cons _).cons _
    refine ⟨?_, before.annotsAmong.append hback⟩
    exact ((htype.cons _).cons_cons _).trans (List.sublist_append_right _ _)

/-- A body is a repetition of fields. -/
theorem BodyForm.repeated {join : Join σ} {w : Tokens σ} {fs : List (Field σ)}
    (h : BodyForm join w fs) : Repeated (fun v f => ∃ separated, FieldForm separated v f) w fs := by
  induction h with
  | nil => exact .nil
  | cons head _ _ ih => exact .cons ⟨_, head⟩ ih

/-! ### Declarations -/

/-- A declaration stands among tokens: at its keyword, with its name and its annotations, and with its
fields in order. -/
structure DeclarationAmong (w : Tokens σ) (d : Declaration σ) : Prop where
  site : d.site ∈ w
  name : ∃ p, ⟨.name d.name, p⟩ ∈ w
  annotations : AnnotsAmong w d.annotations
  sites : (d.fields.map Field.site).Sublist w
  fields : ∀ f ∈ d.fields, FieldAmong w f

theorem DeclarationAmong.mono {v w : Tokens σ} {d : Declaration σ} (h : DeclarationAmong v d)
    (hsub : v.Sublist w) : DeclarationAmong w d where
  site := hsub.subset h.site
  name := h.name.imp fun _ hp => hsub.subset hp
  annotations := h.annotations.mono hsub
  sites := h.sites.trans hsub
  fields f hf := (h.fields f hf).mono hsub

/-- Every place of the declaration is that of a token. -/
theorem DeclarationAmong.places {w : Tokens σ} {d : Declaration σ} (h : DeclarationAmong w d) :
    ∀ s ∈ d.places, ∃ t ∈ w, t.place = s := by
  intro s hs
  rcases List.mem_append.1 hs with hs | hs
  · exact h.annotations.places s hs
  rcases List.mem_cons.1 hs with rfl | hs
  · exact ⟨d.site, h.site, rfl⟩
  · obtain ⟨f, hf, hs⟩ := List.mem_flatMap.1 hs
    exact (h.fields f hf).places s hs

theorem declarationAmong_of_declarationForm {join : Join σ} {w : Tokens σ} {d : Declaration σ}
    (h : DeclarationForm join w d) : DeclarationAmong w d := by
  cases h with
  | @mk u v x front word kind n logical fields p q r s before opened named body =>
    -- the fields are inside the braces, which are behind the name clause
    have hbody : x.Sublist (u ++ ⟨word, p⟩ :: ⟨.name n, q⟩ ::
        (v ++ ⟨.symbol .openBrace, r⟩ :: (x ++ [⟨.symbol .closeBrace, s⟩]))) := by
      refine List.Sublist.trans ?_ (List.sublist_append_right u _)
      refine List.Sublist.cons _ (List.Sublist.cons _ ?_)
      refine List.Sublist.trans ?_ (List.sublist_append_right v _)
      exact (List.sublist_append_left x _).cons _
    have hword : word = .keyword kind.keyword := by cases opened <;> rfl
    subst hword
    refine ⟨List.mem_append_right _ (.head _), ⟨q, List.mem_append_right _ (.tail _ (.head _))⟩,
      before.annotsAmong.mono (List.sublist_append_left _ _), ?_, ?_⟩
    · refine (body.repeated.sites_sublist ?_).trans hbody
      intro _ f hf
      obtain ⟨separated, hf⟩ := hf
      exact (fieldAmong_of_fieldForm hf).sites.subset (.head _)
    · intro f hf
      obtain ⟨z, hz, separated, hform⟩ := body.repeated.exists_of_mem hf
      exact (fieldAmong_of_fieldForm hform).mono (hz.trans hbody)

end Grammar

end ModelIdl
