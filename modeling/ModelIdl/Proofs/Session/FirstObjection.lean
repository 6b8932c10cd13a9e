import Mathlib.Data.List.Basic
import ModelIdl.Session.AnyDialect

/-!
# ModelIdl.Proofs.Session.FirstObjection

What a session over any dialect says of the identifiers of a declaration. It objects to one that is empty,
and to one that its dialect refuses for its length if the dialect names a limit
(`RuledSession.Refuses`). The first objection decides what the declaration resolves to; an objection to the
sequence decides what asking for its statement alone comes to.
-/

namespace ModelIdl

variable {σ : Type}

namespace RuledSession

/-- What a session says of an identifier of a declaration that it objects to. -/
inductive Refuses (s : RuledSession) (d : Declaration σ) : String → SessionError → Prop
  | empty : Refuses s d "" (.emptyIdentifier s.dialectId d.name)
  | unfit {identifier : String} {most : Nat} (hne : identifier ≠ "")
      (hfits : s.rules.fits identifier = false) (hmost : s.rules.maxLength = some most) :
      Refuses s d identifier (.identifierTooLong s.dialectId identifier most)

variable {s : RuledSession} {d : Declaration σ}

theorem objection?_eq_some_iff {identifier : String} {e : SessionError} :
    s.objection? d identifier = some e ↔ s.Refuses d identifier e := by
  constructor
  · intro h
    unfold objection? at h
    split at h
    case isTrue hempty =>
      obtain rfl := String.isEmpty_iff.1 hempty
      cases h
      exact .empty
    case isFalse hne =>
      split at h
      case isTrue => cases h
      case isFalse hfits =>
        obtain ⟨most, hmost, rfl⟩ := Option.map_eq_some_iff.1 h
        exact .unfit (by simpa using hne) (by simpa using hfits) hmost
  · intro h
    cases h with
    | empty => rfl
    | unfit hne hfits hmost => simp [objection?, hne, hfits, hmost]

/-! ### Resolving -/

theorem resolve_eq_error_iff_findSome? {e : SessionError} :
    s.resolve d = .error e ↔
      (s.naming.physicalNames d).identifiers.findSome? (s.objection? d) = some e := by
  rw [resolve]
  cases (s.naming.physicalNames d).identifiers.findSome? (s.objection? d) <;> simp

theorem resolve_eq_ok_iff_findSome? {r : ResolvedNames} :
    s.resolve d = .ok r ↔
      (s.naming.physicalNames d).identifiers.findSome? (s.objection? d) = none ∧
        r = s.quoteNames (s.naming.physicalNames d) := by
  rw [resolve]
  cases (s.naming.physicalNames d).identifiers.findSome? (s.objection? d) <;> simp [eq_comm]

/-- The first identifier that is objected to decides the error. -/
theorem resolve_eq_error_iff {e : SessionError} :
    s.resolve d = .error e ↔ ∃ front i behind,
      (s.naming.physicalNames d).identifiers = front ++ i :: behind ∧
        (∀ j ∈ front, s.objection? d j = none) ∧ s.objection? d i = some e := by
  rw [resolve_eq_error_iff_findSome?, List.findSome?_eq_some_iff]
  simp only [and_comm]

theorem resolve_eq_ok_iff {r : ResolvedNames} :
    s.resolve d = .ok r ↔
      (∀ i ∈ (s.naming.physicalNames d).identifiers, s.objection? d i = none) ∧
        r = s.quoteNames (s.naming.physicalNames d) := by
  rw [resolve_eq_ok_iff_findSome?, List.findSome?_eq_none_iff]

/-! ### Asking for the statement alone -/

theorem nextValueSql_of_objection {sequence : String} {e : SessionError}
    (h : s.naming.sequenceOf d = some sequence) (hobjection : s.objection? d sequence = some e) :
    s.nextValueSql d = .error e := by
  simp only [nextValueSql, h, hobjection]

theorem nextValueSql_of_no_objection {sequence : String}
    (h : s.naming.sequenceOf d = some sequence) (hobjection : s.objection? d sequence = none) :
    s.nextValueSql d = .ok (some (s.rules.nextValueSql sequence)) := by
  simp only [nextValueSql, h, hobjection]

theorem nextValueSql_of_no_sequence (h : s.naming.sequenceOf d = none) :
    s.nextValueSql d = .ok none := by
  rw [nextValueSql, h]

/-- Asking alone fails exactly with what is objected to the sequence. -/
theorem nextValueSql_eq_error_iff {e : SessionError} :
    s.nextValueSql d = .error e ↔
      ∃ sequence, s.naming.sequenceOf d = some sequence ∧ s.objection? d sequence = some e := by
  cases hsequence : s.naming.sequenceOf d with
  | none => simp [nextValueSql_of_no_sequence hsequence]
  | some sequence =>
    cases hobjection : s.objection? d sequence with
    | none => simp [nextValueSql_of_no_objection hsequence hobjection, hobjection]
    | some e => simp [nextValueSql_of_objection hsequence hobjection, hobjection]

end RuledSession

end ModelIdl
