import Mathlib
import ModelIdl.Proofs.Session.FirstObjection
import ModelIdl.Session.Basic

/-!
# ModelIdl.Proofs.Session.SequenceStatements

The two ways to the statement of a sequence: resolving a declaration gives it beside all quoted names, and
it can be asked for alone. Design points:

* **Identifiers have roles.** One text may be table, sequence and column at once, so what is wrong first is
  told by its role (`RuledSession.OffendsFirst`).
* **One way checks more.** Resolving checks the table in front of the sequence and the columns behind it;
  asking alone checks the sequence only. So asking alone can succeed where resolving fails, but only for
  the table or a column (`RuledSession.sequence_statements_agree`).
-/

namespace ModelIdl

variable {σ : Type}

/-! ### Roles of identifiers -/

/-- What an identifier of a declaration names. -/
inductive IdentifierRole where
  | table
  | sequence
  | column (field : String)
deriving DecidableEq, Repr

namespace PhysicalNames

/-- Every identifier with its role, in the order in which they are checked. -/
def entries (n : PhysicalNames) : List (IdentifierRole × String) :=
  n.table.toList.map (.table, ·) ++ n.sequence.toList.map (.sequence, ·) ++
    n.columns.map fun (field, column) => (.column field, column)

theorem map_snd_entries (n : PhysicalNames) : n.entries.map Prod.snd = n.identifiers := by
  simp [entries, identifiers, Function.comp_def]

/-- The first identifier of which something is known is that of the first such entry. -/
theorem findSome?_identifiers {α : Type} (n : PhysicalNames) (f : String → Option α) :
    n.identifiers.findSome? f = n.entries.findSome? (f ∘ Prod.snd) := by
  rw [← map_snd_entries, List.findSome?_map]

theorem sequence_mem_entries_iff {n : PhysicalNames} {sequence : String} :
    (.sequence, sequence) ∈ n.entries ↔ n.sequence = some sequence := by
  simp [entries]

end PhysicalNames

theorem Naming.sequenceOf_of_embeddable (n : Naming) {d : Declaration σ} (h : d.kind = .embeddable) :
    n.sequenceOf d = none := by
  simp [sequenceOf, h, DeclarationKind.hasTable]

namespace RuledSession

variable {s : RuledSession} {d : Declaration σ}

/-- Of all identifiers of a declaration, the first that a session objects to has this role, and this is
the objection. -/
def OffendsFirst (s : RuledSession) (d : Declaration σ) (role : IdentifierRole) (e : SessionError) : Prop :=
  ∃ front identifier behind, (s.naming.physicalNames d).entries = front ++ (role, identifier) :: behind ∧
    (∀ entry ∈ front, s.objection? d entry.2 = none) ∧ s.objection? d identifier = some e

/-! ### Resolving -/

theorem resolve_eq_error_iff_offendsFirst {e : SessionError} :
    s.resolve d = .error e ↔ ∃ role, s.OffendsFirst d role e := by
  rw [resolve_eq_error_iff_findSome?, PhysicalNames.findSome?_identifiers, List.findSome?_eq_some_iff]
  constructor
  · rintro ⟨front, ⟨role, identifier⟩, behind, hsplit, he, hfront⟩
    exact ⟨role, front, identifier, behind, hsplit, hfront, he⟩
  · rintro ⟨role, front, identifier, behind, hsplit, hfront, he⟩
    exact ⟨front, (role, identifier), behind, hsplit, he, hfront⟩

/-! ### Both ways -/

/-- Where the sequence is what is wrong first, asking alone fails in the same way. -/
theorem OffendsFirst.nextValueSql {e : SessionError} (h : s.OffendsFirst d .sequence e) :
    s.nextValueSql d = .error e := by
  obtain ⟨front, sequence, behind, hsplit, -, hobjection⟩ := h
  have hmem : (.sequence, sequence) ∈ (s.naming.physicalNames d).entries := by
    rw [hsplit]
    exact List.mem_append_right _ (.head _)
  exact nextValueSql_eq_error_iff.2 ⟨sequence, PhysicalNames.sequence_mem_entries_iff.1 hmem, hobjection⟩

/-- Only the table is checked in front of the sequence. -/
theorem offendsFirst_of_sequence {sequence : String} {e : SessionError}
    (hsequence : s.naming.sequenceOf d = some sequence) (hobjection : s.objection? d sequence = some e) :
    s.OffendsFirst d .sequence e ∨ ∃ e', s.OffendsFirst d .table e' := by
  have hentries : (s.naming.physicalNames d).entries =
      (s.naming.tableOf d).toList.map (.table, ·) ++ (.sequence, sequence) ::
        (s.naming.physicalNames d).columns.map fun (field, column) => (.column field, column) := by
    simp [PhysicalNames.entries, Naming.physicalNames, hsequence]
  cases htable : s.naming.tableOf d with
  | none => exact .inl ⟨[], sequence, _, by rw [hentries, htable]; rfl, by simp, hobjection⟩
  | some table =>
    rw [htable] at hentries
    cases hfirst : s.objection? d table with
    | some e' => exact .inr ⟨e', [], table, _, hentries, by simp, hfirst⟩
    | none => exact .inl ⟨[(.table, table)], sequence, _, hentries, by simpa using hfirst, hobjection⟩

theorem nextValueSql_of_resolve {r : ResolvedNames} (h : s.resolve d = .ok r) :
    s.nextValueSql d = .ok r.nextValueSql := by
  obtain ⟨hnone, rfl⟩ := resolve_eq_ok_iff.1 h
  cases hsequence : s.naming.sequenceOf d with
  | none =>
    rw [nextValueSql_of_no_sequence hsequence]
    simp [quoteNames, Naming.physicalNames, hsequence]
  | some sequence =>
    have hmem : sequence ∈ (s.naming.physicalNames d).identifiers := by
      simp [PhysicalNames.identifiers, Naming.physicalNames, hsequence]
    rw [nextValueSql_of_no_objection hsequence (hnone sequence hmem)]
    simp [quoteNames, Naming.physicalNames, hsequence]

/-- In every session, over whatever dialect and with whatever strategy, both ways to the statement of a
sequence agree. Where a declaration resolves, asking alone gives the statement among what it resolves to.
Where asking alone fails, so does resolving, with the same error or because of the table. Where only
resolving fails, it is the table or a column that is wrong first. An embeddable has no statement. The
sessions over the built-in kind of dialects are among these sessions. -/
theorem sequence_statements_agree :
    (∀ (s : RuledSession) (d : Declaration σ),
      (∀ r, s.resolve d = .ok r → s.nextValueSql d = .ok r.nextValueSql) ∧
      (∀ e, s.nextValueSql d = .error e →
        (s.resolve d = .error e ∧ s.OffendsFirst d .sequence e) ∨
          ∃ e', s.resolve d = .error e' ∧ s.OffendsFirst d .table e') ∧
      (∀ statement e, s.nextValueSql d = .ok statement → s.resolve d = .error e →
        (s.OffendsFirst d .table e ∨ ∃ field, s.OffendsFirst d (.column field) e) ∧
          ∀ e', ¬ s.OffendsFirst d .sequence e') ∧
      (d.kind = .embeddable → s.nextValueSql d = .ok none)) ∧
    ∀ (s : Session) (d : Declaration σ),
      s.resolve d = s.ruled.resolve d ∧ s.nextValueSql d = s.ruled.nextValueSql d := by
  refine ⟨fun s d => ⟨fun _ => nextValueSql_of_resolve, fun e herror => ?_,
    fun statement e hnext herror => ?_, fun hkind => ?_⟩,
    fun s d => ⟨rfl, rfl⟩⟩
  · obtain ⟨sequence, hsequence, hobjection⟩ := nextValueSql_eq_error_iff.1 herror
    obtain hoffends | ⟨e', hoffends⟩ := offendsFirst_of_sequence hsequence hobjection
    · exact .inl ⟨resolve_eq_error_iff_offendsFirst.2 ⟨_, hoffends⟩, hoffends⟩
    · exact .inr ⟨e', resolve_eq_error_iff_offendsFirst.2 ⟨_, hoffends⟩, hoffends⟩
  · have hnot : ∀ e', ¬ s.OffendsFirst d .sequence e' := by
      intro e' hoffends
      rw [hoffends.nextValueSql] at hnext
      cases hnext
    obtain ⟨role, hoffends⟩ := resolve_eq_error_iff_offendsFirst.1 herror
    cases role with
    | table => exact ⟨.inl hoffends, hnot⟩
    | sequence => exact absurd hoffends (hnot e)
    | column field => exact ⟨.inr ⟨field, hoffends⟩, hnot⟩
  · exact nextValueSql_of_no_sequence (s.naming.sequenceOf_of_embeddable hkind)

/-- A session whose dialect takes names of four characters at most. -/
def fourLetters : RuledSession :=
  ⟨"short", ⟨some 4, fun name => name.length ≤ 4, fun name => "<" ++ name ++ ">", ("DRAW " ++ ·)⟩, .identity⟩

/-- A declaration without fields, and with a `@sequence` for each of the given names. -/
def withSequences (kind : DeclarationKind) (name : String) (sequences : List String) : Declaration Unit :=
  ⟨kind, name, name, sequences.map fun sequence => ⟨"sequence", [.string sequence], ()⟩, [], ()⟩

/-- Of two sequences the last counts, also where the table is too long. Where the one that counts is too
long, nothing resolves. -/
theorem sequence_statements_agree_four_letters :
    let s := fourLetters
    let short := withSequences .model "Ord" ["first", "sq"]
    let longTable := withSequences .model "Order" ["first", "sq"]
    let longSequence := withSequences .model "Ord" ["sq", "first"]
    let part := withSequences .embeddable "Part" ["first"]
    (s.resolve short = .ok (s.quoteNames (s.naming.physicalNames short)) ∧
      s.nextValueSql short = .ok (some "DRAW sq")) ∧
    (s.nextValueSql longTable = .ok (some "DRAW sq") ∧
      s.resolve longTable = .error (.identifierTooLong "short" "Order" 4) ∧
      ∀ e, ¬ s.OffendsFirst longTable .sequence e) ∧
    (s.nextValueSql longSequence = .error (.identifierTooLong "short" "first" 4) ∧
      ∃ e, s.resolve longSequence = .error e) ∧
    s.nextValueSql part = .ok none := by
  intro s short longTable longSequence part
  have hshort : s.resolve short = .ok (s.quoteNames (s.naming.physicalNames short)) := by cbv
  have hnext : s.nextValueSql longTable = .ok (some "DRAW sq") := by cbv
  have htable : s.resolve longTable = .error (.identifierTooLong "short" "Order" 4) := by cbv
  have hsequence : s.nextValueSql longSequence = .error (.identifierTooLong "short" "first" 4) := by cbv
  refine ⟨⟨hshort, (sequence_statements_agree.1 s short).1 _ hshort⟩,
    ⟨hnext, htable, ((sequence_statements_agree.1 s longTable).2.2.1 _ _ hnext htable).2⟩,
    ⟨hsequence, ?_⟩, (sequence_statements_agree.1 s part).2.2.2 rfl⟩
  obtain ⟨herror, -⟩ | ⟨e, herror, -⟩ := (sequence_statements_agree.1 s longSequence).2.1 _ hsequence
  · exact ⟨_, herror⟩
  · exact ⟨_, herror⟩

end RuledSession

end ModelIdl
