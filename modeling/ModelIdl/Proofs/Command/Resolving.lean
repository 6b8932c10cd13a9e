import Mathlib.Data.List.Forall2
import ModelIdl.Command.Run
import ModelIdl.Proofs.Session.Resolution
import ModelIdl.Proofs.Session.Runs

/-!
# ModelIdl.Proofs.Command.Resolving

What the reports of a schema are, and what is left of the registry behind them. Design points:

* **A report is known by its declaration.** `Session.Reports` says what stands in each part of it. Fields and
  resolved columns are as many and in one order, so pairing them loses and shifts nothing.
* **All or the first failure.** There are reports exactly if there is one for each declaration. Otherwise the
  first declaration that does not resolve says why (`Command.reports_eq_ok_iff`,
  `Command.reports_eq_error_iff`).
* **The registry is closed on every way out** (`Command.resolveAndClose_all_or_nothing`).
-/

namespace ModelIdl

variable {σ : Type}

/-! ### One declaration -/

namespace Session

/-- The entry of a column is that of the field: its name, its type's text, and its own column in quotes. -/
structure Lists (s : Session) (f : Field σ) (c : ColumnReport) : Prop where
  field : c.field = f.name
  type : c.type = f.type.text
  column : c.column = s.dialect.quoteIdentifier (s.naming.columnOf f)

/-- The report is that of the declaration, with what the session resolves it to and one entry for each
field. -/
structure Reports (s : Session) (d : Declaration σ) (r : DeclarationReport) : Prop where
  kind : r.kind = d.kind
  name : r.name = d.name
  logicalName : r.logicalName = d.logicalName
  resolved : ∃ names, s.resolve d = .ok names ∧ r.table = names.table ∧
    r.nextValueSql = names.nextValueSql
  columns : List.Forall₂ s.Lists d.fields r.columns

variable {s : Session} {d : Declaration σ}

/-- There is one list of entries for some fields. -/
theorem lists_iff {fields : List (Field σ)} {columns : List ColumnReport} :
    List.Forall₂ s.Lists fields columns ↔ (fields.map fun f =>
      ⟨f.name, f.type.text, s.dialect.quoteIdentifier (s.naming.columnOf f)⟩) = columns := by
  have hlists (f : Field σ) (c : ColumnReport) : s.Lists f c ↔
      ⟨f.name, f.type.text, s.dialect.quoteIdentifier (s.naming.columnOf f)⟩ = c := by
    obtain ⟨field, type, column⟩ := c
    rw [ColumnReport.mk.injEq]
    exact ⟨fun h => ⟨h.field.symm, h.type.symm, h.column.symm⟩,
      fun h => ⟨h.1.symm, h.2.1.symm, h.2.2.symm⟩⟩
  rw [← List.forall₂_eq_eq_eq, List.forall₂_map_left_iff]
  exact ⟨.imp fun f c => (hlists f c).1, .imp fun f c => (hlists f c).2⟩

/-- The fields and the columns that they resolve to are paired one by one. -/
theorem columns_of_resolve {names : ResolvedNames} (h : s.resolve d = .ok names) :
    (DeclarationReport.of d names).columns = d.fields.map fun f =>
      ⟨f.name, f.type.text, s.dialect.quoteIdentifier (s.naming.columnOf f)⟩ := by
  rw [(resolve_eq_ok_iff.1 h).2.eq_quoteNames]
  simp [DeclarationReport.of, quoteNames_eq, Naming.physicalNames, List.zipWith_map_right,
    List.zipWith_self]

theorem report_eq_ok_iff {r : DeclarationReport} : s.report d = .ok r ↔ s.Reports d r := by
  constructor
  · intro h
    rw [report] at h
    cases hnames : s.resolve d with
    | error e =>
      rw [hnames] at h
      cases h
    | ok names =>
      rw [hnames] at h
      cases h
      exact ⟨rfl, rfl, rfl, ⟨names, hnames, rfl, rfl⟩, lists_iff.2 (columns_of_resolve hnames).symm⟩
  · intro h
    obtain ⟨kind, name, logicalName, table, sql, columns⟩ := r
    obtain ⟨hkind, hname, hlogical, ⟨names, hnames, htable, hsql⟩, hcolumns⟩ := h
    rw [report, hnames]
    have hentries : (DeclarationReport.of d names).columns = columns :=
      (columns_of_resolve hnames).trans (lists_iff.1 hcolumns)
    simp only at hkind hname hlogical htable hsql
    subst hkind hname hlogical htable hsql hentries
    rfl

/-- A declaration has a report exactly if it resolves. -/
theorem exists_reports_iff : (∃ r, s.Reports d r) ↔ ∃ names, s.resolve d = .ok names := by
  simp only [← report_eq_ok_iff, report]
  cases s.resolve d <;> simp [Except.map]

end Session

/-! ### All declarations -/

namespace Command

open Session

variable {s : Session} {ds : List (Declaration σ)}

theorem reports_cons_eq_ok_iff {d : Declaration σ} {rs : List DeclarationReport} :
    reports s (d :: ds) = .ok rs ↔
      ∃ r rs', s.report d = .ok r ∧ reports s ds = .ok rs' ∧ rs = r :: rs' := by
  rw [reports]
  cases s.report d with
  | error e => simp
  | ok r => cases reports s ds <;> simp [Bind.bind, Except.bind, Pure.pure, Except.pure, eq_comm]

theorem reports_cons_eq_error_iff {d : Declaration σ} {f : CommandFailure} :
    reports s (d :: ds) = .error f ↔
      (∃ e, s.resolve d = .error e ∧ f = ⟨"cannot resolve " ++ d.name, some e.message⟩) ∨
        (∃ names, s.resolve d = .ok names) ∧ reports s ds = .error f := by
  rw [reports, report]
  cases s.resolve d with
  | error e => simp [Except.map, eq_comm]
  | ok names => cases reports s ds <;> simp [Except.map, Bind.bind, Except.bind, Pure.pure, Except.pure]

/-- There are reports exactly if there is one for each declaration, in order. -/
theorem reports_eq_ok_iff {rs : List DeclarationReport} :
    reports s ds = .ok rs ↔ List.Forall₂ s.Reports ds rs := by
  induction ds generalizing rs with
  | nil => cases rs <;> simp [reports]
  | cons d ds ih =>
    rw [reports_cons_eq_ok_iff, List.forall₂_cons_left_iff]
    simp only [report_eq_ok_iff, ih]

/-- The first declaration that does not resolve says why there are no reports. -/
theorem reports_eq_error_iff {f : CommandFailure} :
    reports s ds = .error f ↔ ∃ front d behind e, ds = front ++ d :: behind ∧
      (∀ c ∈ front, ∃ names, s.resolve c = .ok names) ∧ s.resolve d = .error e ∧
      f = ⟨"cannot resolve " ++ d.name, some e.message⟩ := by
  induction ds with
  | nil => simp [reports]
  | cons d ds ih =>
    rw [reports_cons_eq_error_iff, ih]
    constructor
    · rintro (⟨e, he, rfl⟩ | ⟨hd, front, d', behind, e, rfl, hfront, he, rfl⟩)
      · exact ⟨[], d, ds, e, rfl, by simp, he, rfl⟩
      · exact ⟨d :: front, d', behind, e, rfl, List.forall_mem_cons.2 ⟨hd, hfront⟩, he, rfl⟩
    · rintro ⟨front, d', behind, e, hsplit, hfront, he, rfl⟩
      cases front with
      | nil =>
        obtain ⟨rfl, rfl⟩ := List.cons.inj hsplit
        exact .inl ⟨e, he, rfl⟩
      | cons c front =>
        obtain ⟨rfl, rfl⟩ := List.cons.inj hsplit
        obtain ⟨hc, hfront⟩ := List.forall_mem_cons.1 hfront
        exact .inr ⟨hc, front, d', behind, e, rfl, hfront, he, rfl⟩

/-- All declarations have reports exactly if all resolve. -/
theorem exists_all_reports_iff : (∃ rs, List.Forall₂ s.Reports ds rs) ↔
    ∀ d ∈ ds, ∃ names, s.resolve d = .ok names := by
  induction ds with
  | nil => exact ⟨fun _ d hd => (by cases hd), fun _ => ⟨[], .nil⟩⟩
  | cons d ds ih =>
    rw [List.forall_mem_cons, ← ih, ← Session.exists_reports_iff]
    constructor
    · rintro ⟨_, hall⟩
      cases hall with
      | cons hd hds => exact ⟨⟨_, hd⟩, _, hds⟩
    · rintro ⟨⟨r, hd⟩, rs, hds⟩
      exact ⟨r :: rs, .cons hd hds⟩

end Command

/-! ### The registry -/

/-- A session of the built-in dialect with an id, for a source. -/
structure Session.IsBuiltIn (s : Session) (naming : Naming) (dialectId : String)
    (source : ConnectionSource) : Prop where
  dialect_mem : s.dialect ∈ Dialect.builtIn
  dialect_name : s.dialect.name = dialectId
  dialectId_eq : s.dialectId = dialectId
  source_eq : s.source = source
  naming_eq : s.naming = naming

/-- Built-in dialects have different names. -/
theorem Dialect.eq_of_builtIn {d e : Dialect} (hd : d ∈ builtIn) (he : e ∈ builtIn)
    (h : d.name = e.name) : d = e := by
  have hall : ∀ d ∈ builtIn, ∀ e ∈ builtIn, d.name = e.name → d = e := by decide
  exact hall d hd e he h

theorem Session.IsBuiltIn.unique {s t : Session} {naming : Naming} {dialectId : String}
    {source : ConnectionSource} (hs : s.IsBuiltIn naming dialectId source)
    (ht : t.IsBuiltIn naming dialectId source) : s = t := by
  obtain ⟨id, dialect, src, n⟩ := s
  obtain ⟨id', dialect', src', n'⟩ := t
  obtain ⟨hmem, hname, rfl, rfl, rfl⟩ := hs
  obtain ⟨hmem', hname', rfl, rfl, rfl⟩ := ht
  obtain rfl : dialect = dialect' := Dialect.eq_of_builtIn hmem hmem' (hname.trans hname'.symm)
  rfl

namespace Registry

theorem lookup_bindings (dialects : List Dialect) (dialectId : String) :
    (dialects.map fun d => (d.name, Factory.binding d)).lookup dialectId =
      (dialects.find? (·.name == dialectId)).map .binding := by
  induction dialects with
  | nil => rfl
  | cons d dialects ih =>
    rw [List.map_cons, List.lookup_cons, List.find?_cons, ih, Bool.beq_comm]
    cases d.name == dialectId <;> rfl

theorem mem_dialectIds_standard {naming : Naming} {dialectId : String} :
    dialectId ∈ (standard naming).dialectIds ↔ ∃ d ∈ Dialect.builtIn, d.name = dialectId := by
  simp [dialectIds, standard]

/-- The ids that a fresh registry knows are those of the sessions it can give out. -/
theorem mem_dialectIds_standard_iff_exists {naming : Naming} {dialectId : String} (source : ConnectionSource) :
    dialectId ∈ (standard naming).dialectIds ↔ ∃ s : Session, s.IsBuiltIn naming dialectId source := by
  rw [mem_dialectIds_standard]
  constructor
  · rintro ⟨d, hd, hname⟩
    exact ⟨⟨dialectId, d, source, naming⟩, hd, hname, rfl, rfl, rfl⟩
  · rintro ⟨s, hs⟩
    exact ⟨s.dialect, hs.dialect_mem, hs.dialect_name⟩

/-- A fresh registry gives out a session of the built-in dialect with the id, if there is one. -/
theorem request_standard (naming : Naming) (dialectId : String) (source : ConnectionSource) :
    (dialectId ∉ (standard naming).dialectIds ∧
      ((standard naming).request dialectId source).1.result =
        .error (.error (.unsupportedDialect dialectId))) ∨
    ∃ handle, handle.session.IsBuiltIn naming dialectId source ∧
      ((standard naming).request dialectId source).1.result = .ok handle := by
  have hlookup : (standard naming).factories.lookup dialectId =
      (Dialect.builtIn.find? (·.name == dialectId)).map .binding := lookup_bindings _ _
  have hstep := (standard naming).request_step dialectId source
  generalize (standard naming).request dialectId source = answer at hstep ⊢
  cases hstep with
  | closed hclosed => cases hclosed
  | kept _ _ hkept => cases hkept
  | unsupported _ hnone =>
    rw [hlookup, Option.map_eq_none_iff, List.find?_eq_none] at hnone
    refine .inl ⟨?_, rfl⟩
    rw [mem_dialectIds_standard]
    rintro ⟨d, hd, hname⟩
    exact hnone d hd (beq_iff_eq.2 hname)
  | failed _ hfactory _ hcreate =>
    rw [hlookup] at hfactory
    obtain ⟨d, -, rfl⟩ := Option.map_eq_some_iff.1 hfactory
    cases hcreate
  | created _ hfactory _ hcreate =>
    rw [hlookup] at hfactory
    obtain ⟨d, hd, rfl⟩ := Option.map_eq_some_iff.1 hfactory
    cases hcreate
    have hname : d.name = dialectId := by simpa using List.find?_some hd
    exact .inr ⟨_, ⟨List.mem_of_find?_eq_some hd, hname, rfl, rfl, rfl⟩, rfl⟩

end Registry

namespace Command

theorem resolveAndClose_closes {r : Registry} (hopen : r.closed = false) (dialectId : String)
    (source : ConnectionSource) (schema : Schema σ) :
    (resolveAndClose r dialectId source schema).2.closed = true ∧
      (resolveAndClose r dialectId source schema).2.live = [] := by
  have hasked : (r.request dialectId source).2.closed = false := by rw [Registry.closed_request, hopen]
  have hlast : (resolveAndClose r dialectId source schema).2 = (r.request dialectId source).2.close.2 :=
    rfl
  rw [hlast, Registry.close, hasked]
  exact ⟨rfl, rfl⟩

/-- The result is that of the session that is given out, or the refusal to give one. -/
theorem result_resolveAndClose (r : Registry) (dialectId : String) (source : ConnectionSource)
    (schema : Schema σ) : (resolveAndClose r dialectId source schema).1.result =
      ((r.request dialectId source).1.result.mapError refusal).bind fun handle =>
        reports handle.session schema.declarations := by
  unfold resolveAndClose
  obtain ⟨⟨result, ran⟩, asked⟩ := r.request dialectId source
  cases result <;> rfl

/-- On a fresh registry, there are reports exactly if the dialect id is known and every declaration
resolves in the session of that id, and then there is one report for each declaration, in order. Otherwise
there are none, and the failure is that the id is unknown, or that of the first declaration that does not
resolve. In any case the registry is closed in the end, and keeps no session. -/
theorem resolveAndClose_all_or_nothing (naming : Naming) (dialectId : String)
    (source : ConnectionSource) (schema : Schema σ) :
    let registry := Registry.standard naming
    let outcome := resolveAndClose registry dialectId source schema
    (outcome.2.closed = true ∧ outcome.2.keys = [] ∧ outcome.2.size = 0) ∧
    (dialectId ∈ registry.dialectIds ↔ ∃ s : Session, s.IsBuiltIn naming dialectId source) ∧
    ((∃ rs, outcome.1.result = .ok rs) ↔ ∃ s : Session, s.IsBuiltIn naming dialectId source ∧
      ∀ d ∈ schema.declarations, ∃ names, s.resolve d = .ok names) ∧
    (∀ rs, outcome.1.result = .ok rs ↔ ∃ s : Session, s.IsBuiltIn naming dialectId source ∧
      List.Forall₂ s.Reports schema.declarations rs) ∧
    ∀ f, outcome.1.result = .error f ↔
      (dialectId ∉ registry.dialectIds ∧
        f = ⟨(SessionError.unsupportedDialect dialectId).message, none⟩) ∨
      ∃ s : Session, s.IsBuiltIn naming dialectId source ∧ ∃ front d behind e,
        schema.declarations = front ++ d :: behind ∧
        (∀ c ∈ front, ∃ names, s.resolve c = .ok names) ∧ s.resolve d = .error e ∧
        f = ⟨"cannot resolve " ++ d.name, some e.message⟩ := by
  intro registry outcome
  have hresult : outcome.1.result = _ := result_resolveAndClose registry dialectId source schema
  obtain ⟨hclosed, hlive⟩ : outcome.2.closed = true ∧ outcome.2.live = [] :=
    resolveAndClose_closes rfl dialectId source schema
  refine ⟨⟨hclosed, by simp [Registry.keys, hlive], by simp [Registry.size, hlive]⟩, ?_⟩
  have hknown : dialectId ∈ registry.dialectIds ↔ ∃ s : Session, s.IsBuiltIn naming dialectId source :=
    Registry.mem_dialectIds_standard_iff_exists source
  refine ⟨hknown, ?_⟩
  rcases Registry.request_standard naming dialectId source with ⟨hunknown, hrequest⟩ | ⟨handle, hs, hrequest⟩
  · have hunknown : dialectId ∉ registry.dialectIds := hunknown
    have hnone (s : Session) : ¬ s.IsBuiltIn naming dialectId source :=
      fun hs => hunknown (hknown.2 ⟨s, hs⟩)
    have hfails : outcome.1.result =
        .error ⟨(SessionError.unsupportedDialect dialectId).message, none⟩ := by
      rw [hresult, hrequest]
      rfl
    simp [hfails, hnone, hunknown, eq_comm]
  · have hone (p : Session → Prop) :
        (∃ s : Session, s.IsBuiltIn naming dialectId source ∧ p s) ↔ p handle.session :=
      ⟨fun ⟨s, hs', hp⟩ => hs.unique hs' ▸ hp, fun hp => ⟨_, hs, hp⟩⟩
    have hreports : outcome.1.result = reports handle.session schema.declarations := by
      rw [hresult, hrequest]
      rfl
    have hin : dialectId ∈ registry.dialectIds := hknown.2 ⟨_, hs⟩
    rw [hreports]
    simp only [hone, reports_eq_ok_iff, reports_eq_error_iff, exists_all_reports_iff, hin, not_true,
      false_and, false_or, implies_true, and_self]

end Command

end ModelIdl
