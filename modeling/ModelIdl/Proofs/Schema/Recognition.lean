import ModelIdl.Proofs.Schema.Completeness
import ModelIdl.Proofs.Schema.Soundness
import ModelIdl.Proofs.Token.Streams

/-!
# ModelIdl.Proofs.Schema.Recognition

Parsing recognises the grammar (`parse_eq_ok_iff_derived`): a source is accepted exactly if it reads as
tokens to its end and the grammar derives them within its limits. The plain grammar is ambiguous in one
point, the annotations between two fields that no separator divides. So the proof turns any derivation
into one in which such annotations belong to the field in front of them
(`exists_greedy_of_unitForm`); nothing else of the tree changes, and the parser finds that derivation.
-/

namespace ModelIdl

namespace Grammar

variable {σ α : Type}

/-! ### Moving annotations to the field in front -/

theorem Repeated.append {item : Tokens σ → α → Prop} {w w' : Tokens σ} {as bs : List α}
    (h : Repeated item w as) (h' : Repeated item w' bs) : Repeated item (w ++ w') (as ++ bs) := by
  induction h with
  | nil => exact h'
  | cons head _ ih =>
    rw [List.append_assoc]
    exact .cons head ih

/-- A field without its annotations. -/
def bare (f : Field σ) : Field σ :=
  { f with annotations := [] }

/-- A field without a separator takes further annotations. -/
theorem FieldForm.append_annotations {w u : Tokens σ} {f : Field σ} {as : List (Annot σ)}
    (h : FieldForm false w f) (has : Repeated AnnotForm u as) :
    FieldForm false (w ++ u) { f with annotations := f.annotations ++ as } := by
  cases h with
  | @mk _ v w x front back type n _ p q before typed behind divided =>
    cases divided with
    | absent =>
      have hform := FieldForm.mk (p := p) (q := q) (n := n) before typed (behind.append has)
        SeparatorForm.absent
      simpa using hform

/-- A field stands behind its leading annotations, and without them it is still a field. -/
theorem FieldForm.split_annotations {separated : Bool} {w : Tokens σ} {f : Field σ}
    (h : FieldForm separated w f) :
    ∃ u front v g, w = u ++ v ∧ Repeated AnnotForm u front ∧ FieldForm separated v g ∧
      Reader.startsWith .atSign v = false ∧ v ≠ [] ∧ bare g = bare f ∧
      f.annotations = front ++ g.annotations := by
  cases h with
  | @mk u v w x front back type n _ p q before typed behind divided =>
    exact ⟨u, front, _, _, rfl, before, .mk .nil typed behind divided, rfl, by simp, rfl, rfl⟩

/-- Any body is also derived with every annotation between two undivided fields at the first of them. -/
theorem exists_greedy_of_bodyForm {w : Tokens σ} {fs : List (Field σ)} (h : BodyForm anyJoin w fs) :
    ∃ gs, BodyForm greedyJoin w gs ∧ gs.map bare = fs.map bare ∧
      gs.flatMap (·.annotations) = fs.flatMap (·.annotations) := by
  induction h with
  | nil => exact ⟨[], .nil, rfl, rfl⟩
  | @cons w ws f fs separated head _ _ ih =>
    obtain ⟨gs, hgs, hbare, hannotations⟩ := ih
    by_cases hjoin : greedyJoin separated ws
    · exact ⟨f :: gs, .cons head hjoin hgs, by simp [hbare], by simp [hannotations]⟩
    -- otherwise the next field starts with annotations, and they go to this one
    · obtain ⟨hseparated, hat⟩ : separated = false ∧ Reader.startsWith .atSign ws = true := by
        simpa [greedyJoin] using hjoin
      subst hseparated
      cases hgs with
      | nil => simp at hat
      | @cons v vs g gs separated' next joined rest =>
        obtain ⟨u, front, v, g', rfl, hfront, hg', hnot, hne, hsame, hall⟩ := next.split_annotations
        have hstop : Reader.startsWith .atSign (v ++ vs) = false := by
          rw [Reader.startsWith_append hne, hnot]
        refine ⟨{ f with annotations := f.annotations ++ front } :: g' :: gs, ?_, ?_, ?_⟩
        · rw [List.append_assoc, ← List.append_assoc w]
          exact .cons (head.append_annotations hfront) (.inr hstop) (.cons hg' joined rest)
        · simp only [List.map_cons, ← hbare, hsame]
          rfl
        · simp only [List.flatMap_cons, ← hannotations, hall, List.append_assoc]

theorem exists_greedy_of_declarationForm {w : Tokens σ} {d : Declaration σ}
    (h : DeclarationForm anyJoin w d) : ∃ e, DeclarationForm greedyJoin w e ∧ e.pooled = d.pooled := by
  cases h with
  | mk before opened named body =>
    obtain ⟨gs, hgs, hbare, hannotations⟩ := exists_greedy_of_bodyForm body
    refine ⟨_, .mk before opened named hgs, ?_⟩
    simp only [Declaration.pooled, hannotations, Prod.mk.injEq, and_true, Declaration.mk.injEq,
      true_and]
    exact hbare

/-- Whatever the plain grammar derives has a derivation in which annotations belong to the field in front
of them wherever the grammar leaves that open. The trees agree up to that. -/
theorem exists_greedy_of_unitForm {w : Tokens σ} {s : Schema σ} (h : UnitForm anyJoin w s) :
    ∃ u, UnitForm greedyJoin w u ∧ u.pooled = s.pooled := by
  obtain ⟨ds⟩ := s
  suffices hlist : ∃ es, Repeated (DeclarationForm greedyJoin) w es ∧
      es.map (·.pooled) = ds.map (·.pooled) by
    obtain ⟨es, hes, hpooled⟩ := hlist
    exact ⟨⟨es⟩, hes, hpooled⟩
  unfold UnitForm at h
  simp only at h
  induction h with
  | nil => exact ⟨[], .nil, rfl⟩
  | cons head _ ih =>
    obtain ⟨es, hes, hpooled⟩ := ih
    obtain ⟨e, he, hsame⟩ := exists_greedy_of_declarationForm head
    exact ⟨e :: es, .cons he hes, by simp [hsame, hpooled]⟩

/-- A derivation that resolves the ambiguity is one of the plain grammar. -/
theorem BodyForm.any {join : Join σ} {w : Tokens σ} {fs : List (Field σ)} (h : BodyForm join w fs) :
    BodyForm anyJoin w fs := by
  induction h with
  | nil => exact .nil
  | cons head _ _ ih => exact .cons head trivial ih

theorem UnitForm.any {join : Join σ} {w : Tokens σ} {s : Schema σ} (h : UnitForm join w s) :
    UnitForm anyJoin w s := by
  unfold UnitForm at h ⊢
  generalize s.declarations = ds at h
  induction h with
  | nil => exact .nil
  | cons head _ ih =>
    cases head with
    | mk before opened named body => exact .cons (.mk before opened named body.any) ih

end Grammar

open Grammar

variable {σ : Type}

/-! ### Limits -/

theorem Declaration.withinLimits_of_pooled_eq {d e : Declaration σ} (h : e.pooled = d.pooled)
    (hd : d.WithinLimits) : e.WithinLimits := by
  simp only [Declaration.pooled, Prod.mk.injEq, Declaration.mk.injEq] at h
  obtain ⟨⟨-, -, hlogical, -, hfields, -⟩, -⟩ := h
  refine ⟨hlogical ▸ hd.named, ?_⟩
  intro f hf
  obtain ⟨g, hg, hsame⟩ : ∃ g ∈ d.fields, bare g = bare f := by
    have hmem : bare f ∈ e.fields.map bare := List.mem_map_of_mem hf
    rw [show e.fields.map bare = d.fields.map bare from hfields] at hmem
    simpa using hmem
  have htype : (bare g).type = (bare f).type := by rw [hsame]
  exact htype ▸ hd.shallow g hg

/-- Whether a schema is within the limits does not depend on which field has which annotation. -/
theorem Schema.withinLimits_of_pooled_eq {s u : Schema σ} (h : u.pooled = s.pooled)
    (hs : s.WithinLimits) : u.WithinLimits := by
  intro e he
  obtain ⟨d, hd, hsame⟩ : ∃ d ∈ s.declarations, d.pooled = e.pooled := by
    have hmem : e.pooled ∈ u.pooled := List.mem_map_of_mem he
    rw [h] at hmem
    simpa [Schema.pooled] using hmem
  exact Declaration.withinLimits_of_pooled_eq hsame.symm (hs d hd)

/-! ### Streams and sources -/

/-- A stream is accepted exactly if it ends and the grammar derives it, annotations being given to the
field in front of them; the schema is the derived tree. -/
theorem Schema.ofStream_eq_ok_iff {s : TokenStream σ} (hnames : ∀ t ∈ s.tokens, t.value ≠ .name "")
    (u : Schema σ) : Schema.ofStream s = .ok u ↔
      (∃ place, s.ending = .finished place) ∧ UnitForm greedyJoin s.tokens u ∧ u.WithinLimits := by
  obtain ⟨ts, ending⟩ := s
  simp only [Schema.ofStream]
  constructor
  · intro h
    split at h
    · cases h
    · rename_i ds rest place hread
      cases h
      obtain ⟨-, hunit, hlimits⟩ := Reader.declarations_sound hread hnames
      exact ⟨⟨place, rfl⟩, hunit, hlimits⟩
    · cases h
  · intro h
    obtain ⟨⟨place, rfl⟩, hunit, hlimits⟩ := h
    rw [Reader.declarations_complete hunit hlimits]

theorem TokenStream.ofSource_names (source : String) :
    ∀ t ∈ (TokenStream.ofSource source).tokens, t.value ≠ .name "" := by
  intro t ht
  obtain ⟨lexeme, hlexeme⟩ := Cursor.spelled_of_mem_stream _ t ht
  exact (ne_of_spells hlexeme).2

/-- Parses a source that reads within some steps. -/
def Schema.parseWithin (steps : Nat) (source : String) :
    Option (Except (ParseError Span) (Schema Span)) :=
  (Cursor.streamWithin steps (Cursor.ofSource source)).map Schema.ofStream

/-- What parsing within some steps gives is what parsing gives. -/
theorem Schema.parse_of_parseWithin (steps : Nat) {source : String}
    {result : Except (ParseError Span) (Schema Span)} (h : parseWithin steps source = some result) :
    Schema.parse source = result := by
  obtain ⟨s, hs, rfl⟩ := Option.map_eq_some_iff.1 h
  rw [Schema.parse, TokenStream.ofSource, Cursor.stream_of_streamWithin hs]

/-- A source is accepted exactly if it reads as tokens to its end and the plain grammar derives these
with a tree within the limits. What parsing gives is the derived tree in which annotations between two
fields that no separator divides belong to the first, and every derivation within the limits gives this
tree up to which of two such fields an annotation belongs to. -/
theorem Schema.parse_eq_ok_iff_derived (source : String) :
    ((∃ u, Schema.parse source = .ok u) ↔
      ∃ ts place t, TokenStream.ofSource source = ⟨ts, .finished place⟩ ∧
        UnitForm anyJoin ts t ∧ t.WithinLimits) ∧
    ∀ u, Schema.parse source = .ok u ↔
      ∃ ts place, TokenStream.ofSource source = ⟨ts, .finished place⟩ ∧
        UnitForm greedyJoin ts u ∧ u.WithinLimits ∧
        ∀ t, UnitForm anyJoin ts t → t.WithinLimits → t.pooled = u.pooled := by
  have hparse : ∀ u, Schema.parse source = .ok u ↔ ∃ ts place,
      TokenStream.ofSource source = ⟨ts, .finished place⟩ ∧ UnitForm greedyJoin ts u ∧
        u.WithinLimits := by
    intro u
    rw [Schema.parse, Schema.ofStream_eq_ok_iff (TokenStream.ofSource_names source)]
    constructor
    · intro h
      obtain ⟨⟨place, hend⟩, hunit, hlimits⟩ := h
      exact ⟨_, place, by rw [← hend], hunit, hlimits⟩
    · intro h
      obtain ⟨ts, place, hstream, hunit, hlimits⟩ := h
      rw [hstream]
      exact ⟨⟨place, rfl⟩, hunit, hlimits⟩
  refine ⟨⟨?_, ?_⟩, fun u => ⟨?_, ?_⟩⟩
  · intro haccepted
    obtain ⟨u, hu⟩ := haccepted
    obtain ⟨ts, place, hstream, hunit, hlimits⟩ := (hparse u).1 hu
    exact ⟨ts, place, u, hstream, hunit.any, hlimits⟩
  · intro h
    obtain ⟨ts, place, t, hstream, hderived, hlimits⟩ := h
    obtain ⟨u, hunit, hpooled⟩ := exists_greedy_of_unitForm hderived
    exact ⟨u, (hparse u).2 ⟨ts, place, hstream, hunit, withinLimits_of_pooled_eq hpooled hlimits⟩⟩
  · intro hu
    obtain ⟨ts, place, hstream, hunit, hlimits⟩ := (hparse u).1 hu
    refine ⟨ts, place, hstream, hunit, hlimits, fun t hderived ht => ?_⟩
    -- the derivation with the annotations moved is found too, so it is this one
    obtain ⟨v, hv, hpooled⟩ := exists_greedy_of_unitForm hderived
    have hparsed := (hparse v).2 ⟨ts, place, hstream, hv, withinLimits_of_pooled_eq hpooled ht⟩
    rw [hu] at hparsed
    cases hparsed
    exact hpooled.symm
  · intro h
    obtain ⟨ts, place, hstream, hunit, hlimits, -⟩ := h
    exact (hparse u).2 ⟨ts, place, hstream, hunit, hlimits⟩

end ModelIdl
