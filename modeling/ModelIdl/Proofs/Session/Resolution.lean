import ModelIdl.Proofs.Dialect.Quoting
import ModelIdl.Proofs.Session.FirstObjection
import ModelIdl.Session.Basic

/-!
# ModelIdl.Proofs.Session.Resolution

What a session makes of a declaration. Design points:

* **One identifier at a time.** A dialect `Takes` an identifier, or a session `Rejects` it with an error,
  and never both.
* **The first one decides.** A declaration resolves exactly if all its identifiers are taken. Otherwise
  the error is about the first that is not (`Session.resolve_decided_by_identifiers`).
* **Quoted names are known by what they stand for.** `Session.Presents` says what each part of a
  resolved declaration reads back as, and that leaves one result only.
-/

namespace ModelIdl

variable {σ : Type}

/-! ### Physical names -/

namespace Naming

theorem isSome_tableOf (n : Naming) (d : Declaration σ) :
    (n.tableOf d).isSome ↔ d.kind = .model := by
  unfold tableOf
  cases d.kind <;> simp [DeclarationKind.hasTable]

theorem isSome_sequenceOf (n : Naming) (d : Declaration σ) :
    (n.sequenceOf d).isSome ↔ d.kind = .model := by
  unfold sequenceOf
  cases d.kind <;> simp [DeclarationKind.hasTable]

end Naming

/-! ### Identifiers one by one -/

/-- The dialect takes a text as an identifier: it is not empty and not too long. -/
structure Dialect.Takes (d : Dialect) (identifier : String) : Prop where
  ne_empty : identifier ≠ ""
  length_le : ∀ most ∈ d.maxLength, identifier.length ≤ most

namespace Session

/-- What a session says of an identifier of a declaration that its dialect does not take. -/
inductive Rejects (s : Session) (d : Declaration σ) : String → SessionError → Prop
  | empty : Rejects s d "" (.emptyIdentifier s.dialectId d.name)
  | tooLong {identifier : String} {most : Nat} (hmost : s.dialect.maxLength = some most)
      (hlong : most < identifier.length) :
      Rejects s d identifier (.identifierTooLong s.dialectId identifier most)

variable {s : Session} {d : Declaration σ}

theorem rejects_iff {identifier : String} {e : SessionError} :
    s.Rejects d identifier e ↔ s.ruled.Refuses d identifier e := by
  constructor
  · intro h
    cases h with
    | empty => exact .empty
    | @tooLong _ most hmost hlong =>
      have hne : identifier ≠ "" := by
        rintro rfl
        cases hlong
      have hfits : s.dialect.fits identifier = false := by simp [Dialect.fits, hmost, hlong]
      exact .unfit hne hfits hmost
  · intro h
    cases h with
    | empty => exact .empty
    | @unfit _ most hne hfits hmost =>
      have hmost : s.dialect.maxLength = some most := hmost
      have hfits : s.dialect.fits identifier = false := hfits
      exact .tooLong hmost (by simpa [Dialect.fits, hmost] using hfits)

theorem objection?_eq_some_iff {identifier : String} {e : SessionError} :
    s.objection? d identifier = some e ↔ s.Rejects d identifier e :=
  RuledSession.objection?_eq_some_iff.trans rejects_iff.symm

/-- A session objects exactly to what its dialect does not take. -/
theorem objection?_eq_none_iff {identifier : String} :
    s.objection? d identifier = none ↔ s.dialect.Takes identifier := by
  rw [Option.eq_none_iff_forall_ne_some]
  simp only [ne_eq, objection?_eq_some_iff]
  constructor
  · intro hnone
    refine ⟨?_, fun most hmost => ?_⟩
    · rintro rfl
      exact hnone _ .empty
    · exact Nat.le_of_not_lt fun hlong => hnone _ (.tooLong hmost hlong)
  · intro htakes e hrejects
    cases hrejects with
    | empty => exact htakes.ne_empty rfl
    | tooLong hmost hlong => exact Nat.not_lt.2 (htakes.length_le _ hmost) hlong

/-! ### All identifiers -/

/-- What a declaration resolves to: its physical names, what each quoted name reads back as, and the
statement for its sequence. Only a model has a table and a sequence. -/
structure Presents (s : Session) (d : Declaration σ) (r : ResolvedNames) : Prop where
  physical : r.physical = s.naming.physicalNames d
  table : r.table.map s.dialect.unquote? = r.physical.table.map some
  table_of_model : r.table.isSome ↔ d.kind = .model
  nextValueSql : r.nextValueSql = r.physical.sequence.map s.dialect.nextValueSql
  nextValueSql_of_model : r.nextValueSql.isSome ↔ d.kind = .model
  columns : r.columns.map (fun c => (c.1, s.dialect.unquote? c.2)) =
    r.physical.columns.map fun c => (c.1, some c.2)
  columns_of_fields : r.columns.map Prod.fst = d.fields.map (·.name)

theorem presents_quoteNames : s.Presents d (s.quoteNames (s.naming.physicalNames d)) where
  physical := rfl
  table := by simp [quoteNames_eq, Function.comp_def]
  table_of_model := by
    rw [quoteNames_eq, Option.isSome_map]
    exact s.naming.isSome_tableOf d
  nextValueSql := rfl
  nextValueSql_of_model := by
    rw [quoteNames_eq, Option.isSome_map]
    exact s.naming.isSome_sequenceOf d
  columns := by simp [quoteNames_eq, Function.comp_def]
  columns_of_fields := by simp [quoteNames_eq, Naming.physicalNames, Function.comp_def]

/-- What reads back as a name, if there is one, is that name in quotes. -/
theorem table_eq_of_unquote? {table name : Option String}
    (h : table.map s.dialect.unquote? = name.map some) :
    table = name.map s.dialect.quoteIdentifier := by
  cases table with
  | none =>
    obtain rfl := Option.map_eq_none_iff.1 h.symm
    rfl
  | some quoted =>
    obtain ⟨n, rfl, hread⟩ := Option.map_eq_some_iff.1 h.symm
    rw [Option.map_some, ← Dialect.unquote?_eq_some_iff.1 hread.symm]

/-- Columns that read back as names are these names in quotes. -/
theorem columns_eq_of_unquote? {columns names : List (String × String)}
    (h : columns.map (fun c => (c.1, s.dialect.unquote? c.2)) = names.map fun c => (c.1, some c.2)) :
    columns = names.map fun c => (c.1, s.dialect.quoteIdentifier c.2) := by
  induction columns generalizing names with
  | nil =>
    obtain rfl := List.map_eq_nil_iff.1 h.symm
    rfl
  | cons c columns ih =>
    cases names with
    | nil => cases h
    | cons n names =>
      obtain ⟨hfirst, hrest⟩ := List.cons.inj h
      obtain ⟨hfield, hname⟩ := Prod.mk.inj hfirst
      rw [List.map_cons, ← ih hrest, ← hfield, ← Dialect.unquote?_eq_some_iff.1 hname]

/-- There is only one result that a declaration can resolve to. -/
theorem Presents.eq_quoteNames {r : ResolvedNames} (h : s.Presents d r) :
    r = s.quoteNames (s.naming.physicalNames d) := by
  obtain ⟨physical, table, next, columns⟩ := r
  obtain ⟨(hphysical : physical = _), htable, -,
    (hnext : next = physical.sequence.map s.dialect.nextValueSql), -, hcolumns, -⟩ := h
  subst hphysical hnext
  rw [quoteNames_eq, ← table_eq_of_unquote? htable, ← columns_eq_of_unquote? hcolumns]

/-- The first identifier that is not taken decides the error. -/
theorem resolve_eq_error_iff {e : SessionError} :
    s.resolve d = .error e ↔ ∃ front i behind,
      (s.naming.physicalNames d).identifiers = front ++ i :: behind ∧
        (∀ j ∈ front, s.dialect.Takes j) ∧ s.Rejects d i e := by
  have hfirst : s.resolve d = .error e ↔ ∃ front i behind,
      (s.naming.physicalNames d).identifiers = front ++ i :: behind ∧
        (∀ j ∈ front, s.objection? d j = none) ∧ s.objection? d i = some e :=
    RuledSession.resolve_eq_error_iff
  simpa only [objection?_eq_none_iff, objection?_eq_some_iff] using hfirst

theorem resolve_eq_ok_iff {r : ResolvedNames} :
    s.resolve d = .ok r ↔ (∀ i ∈ (s.naming.physicalNames d).identifiers, s.dialect.Takes i) ∧
      s.Presents d r := by
  have hnone : s.resolve d = .ok r ↔
      (∀ i ∈ (s.naming.physicalNames d).identifiers, s.objection? d i = none) ∧
        r = s.quoteNames (s.naming.physicalNames d) :=
    RuledSession.resolve_eq_ok_iff
  simp only [hnone, objection?_eq_none_iff]
  refine and_congr_right fun _ => ⟨?_, fun h => h.eq_quoteNames⟩
  rintro rfl
  exact presents_quoteNames

/-- A declaration resolves exactly if the dialect takes all its identifiers: the physical table and
sequence, which only a model has, and the columns in the order of the fields. Otherwise the error is about
the first that it does not take. What it resolves to reads back as its physical names. -/
theorem resolve_decided_by_identifiers (s : Session) (d : Declaration σ) :
    let names := s.naming.physicalNames d
    let identifiers := names.table.toList ++ names.sequence.toList ++ names.columns.map Prod.snd
    ((names.table.isSome ↔ d.kind = .model) ∧ (names.sequence.isSome ↔ d.kind = .model)) ∧
      ((∃ r, s.resolve d = .ok r) ↔ ∀ i ∈ identifiers, s.dialect.Takes i) ∧
      (∀ e, s.resolve d = .error e ↔ ∃ front i behind, identifiers = front ++ i :: behind ∧
        (∀ j ∈ front, s.dialect.Takes j) ∧ s.Rejects d i e) ∧
      ∀ r, s.resolve d = .ok r ↔ (∀ i ∈ identifiers, s.dialect.Takes i) ∧ s.Presents d r := by
  intro names identifiers
  refine ⟨⟨s.naming.isSome_tableOf d, s.naming.isSome_sequenceOf d⟩, ?_, fun _ => resolve_eq_error_iff,
    fun _ => resolve_eq_ok_iff⟩
  refine ⟨fun ⟨r, hr⟩ => (resolve_eq_ok_iff.1 hr).1, fun htakes => ?_⟩
  exact ⟨_, resolve_eq_ok_iff.2 ⟨htakes, presents_quoteNames⟩⟩

end Session

end ModelIdl
