import Mathlib
import ModelIdl.Proofs.Session.Lifecycle

/-!
# ModelIdl.Proofs.Session.Reordering

Requests in another order. Clients that ask a registry for sessions do not notice who was first, except
by the numbers of the sessions. Design points:

* **A request is decided by the registry in front of all of them.** What it comes to depends on what is
  kept under its own key (`Registry.view_request_congr`), and if an earlier request of the list made that,
  it made what this one would have made (`Registry.ask_step`).
* **Two sorts of factory calls.** One that fails is made again for each request. One that makes a session
  is made once for its key. The first are counted by the requests and the second by the new keys, so
  neither depends on the order.
-/

namespace ModelIdl

/-! ### The order of keys -/

namespace SessionKey

/-- What a key is ordered by, part by part. -/
def rank (k : SessionKey) : String ×ₗ String ×ₗ Nat :=
  toLex (k.dialectId, toLex (k.url, k.source))

theorem rank_injective : Function.Injective rank := by
  intro a b h
  obtain ⟨dialectId, url, source⟩ := a
  cases b
  cases h
  rfl

theorem le_iff_rank_le {a b : SessionKey} : a.le b = true ↔ a.rank ≤ b.rank := by
  unfold le rank
  by_cases hid : a.dialectId = b.dialectId
  · by_cases hurl : a.url = b.url <;> simp [Prod.Lex.toLex_le_toLex, hid, hurl]
  · simp [Prod.Lex.toLex_le_toLex, hid]

end SessionKey

/-- Keys are listed in their order. -/
theorem Registry.pairwise_keys (r : Registry) : r.keys.Pairwise fun a b => a.le b = true := by
  refine List.pairwise_mergeSort ?_ ?_ _
  · intro a b c hab hbc
    rw [SessionKey.le_iff_rank_le] at hab hbc ⊢
    exact hab.trans hbc
  · intro a b
    rw [Bool.or_eq_true, SessionKey.le_iff_rank_le, SessionKey.le_iff_rank_le]
    exact le_total _ _

/-- Keys are listed in their order, whatever order they came in. -/
theorem Registry.keys_eq_of_perm {r r' : Registry}
    (h : (r.live.map Prod.fst).Perm (r'.live.map Prod.fst)) : r.keys = r'.keys := by
  have hperm : r.keys.Perm r'.keys :=
    (List.mergeSort_perm _ _).trans (h.trans (List.mergeSort_perm _ _).symm)
  refine hperm.eq_of_pairwise ?_ r.pairwise_keys r'.pairwise_keys
  intro a b _ _ hab hba
  rw [SessionKey.le_iff_rank_le] at hab hba
  exact SessionKey.rank_injective (le_antisymm hab hba)

/-! ### Asking -/

/-- What a client asks for: the session of a dialect id and a source. -/
structure Ask where
  dialectId : String
  source : ConnectionSource

namespace Ask

/-- The key of the session that is asked for. -/
def key (a : Ask) : SessionKey :=
  SessionKey.of a.dialectId a.source

/-- Asking, as an operation. -/
def operation (a : Ask) : Operation :=
  .request a.dialectId a.source

end Ask

/-- Sources in one place are one source, as they are while all of them exist. -/
def OneObjectEach (asks : List Ask) : Prop :=
  ∀ a ∈ asks, ∀ b ∈ asks, a.source.identity = b.source.identity → a.source = b.source

theorem OneObjectEach.tail {asks : List Ask} {a : Ask} (h : OneObjectEach (a :: asks)) :
    OneObjectEach asks := fun b hb c hc => h b (.tail _ hb) c (.tail _ hc)

theorem OneObjectEach.eq_of_key {asks : List Ask} (h : OneObjectEach asks) {a b : Ask} (ha : a ∈ asks)
    (hb : b ∈ asks) (hkey : b.key = a.key) : b = a := by
  obtain ⟨dialectId, source⟩ := a
  obtain ⟨dialectId', source'⟩ := b
  obtain ⟨hid, -, hidentity⟩ := SessionKey.mk.inj hkey
  rw [show dialectId' = dialectId from hid, show source' = source from h _ hb _ ha hidentity]

/-- What a call was answered with, but for the number of the session. -/
def Call.outcome (c : Call) : Except Failure Session :=
  c.grant.result.map Handle.session

/-- How many of the calls for a dialect id called a factory. -/
def factoryCalls (cs : List Call) (dialectId : String) : Nat :=
  cs.countP fun c => c.dialectId == dialectId && c.grant.ran.isSome

namespace Registry

variable {r r' : Registry} {a b : Ask}

/-- What asking comes to, and which factory is called for it. -/
def view (r : Registry) (a : Ask) : Except Failure Session × Option Factory :=
  let grant := (r.request a.dialectId a.source).1
  (grant.result.map Handle.session, grant.ran)

/-- Does a factory make a session when this is asked for? -/
def opens (r : Registry) (a : Ask) : Bool :=
  (r.view a).2.isSome && (r.view a).1.isOk

/-- Is a factory called in vain when this is asked for? -/
def fails (r : Registry) (a : Ask) : Bool :=
  (r.view a).2.isSome && !(r.view a).1.isOk

/-- What asking comes to depends on no session but the one that is kept under the key. -/
theorem view_request_congr (hclosed : r.closed = r'.closed) (hfactories : r.factories = r'.factories)
    (hnaming : r.naming = r'.naming)
    (hkept : (r.kept? a.key).map Handle.session = (r'.kept? a.key).map Handle.session) :
    r.view a = r'.view a := by
  unfold view request
  rw [← hclosed, ← hfactories, ← hnaming]
  change (r.kept? (SessionKey.of a.dialectId a.source)).map Handle.session =
    (r'.kept? (SessionKey.of a.dialectId a.source)).map Handle.session at hkept
  cases r.closed with
  | true => rfl
  | false =>
    cases r.factories.lookup a.dialectId with
    | none => rfl
    | some factory =>
      simp only [Bool.false_eq_true, if_false]
      cases hfirst : r.kept? (SessionKey.of a.dialectId a.source) with
      | some handle =>
        rw [hfirst, Option.map_some] at hkept
        obtain ⟨handle', hsecond, hsession⟩ := Option.map_eq_some_iff.1 hkept.symm
        simp only [hsecond, Except.map, hsession]
      | none =>
        rw [hfirst, Option.map_none] at hkept
        simp only [Option.map_eq_none_iff.1 hkept.symm]
        cases factory.create ⟨a.dialectId, a.source, r.naming⟩ <;> rfl

theorem kept?_keep (key key' : SessionKey) (session : Session) :
    (r.keep key session).kept? key' =
      (r.kept? key').or (if key' = key then some ⟨r.created, session⟩ else none) := by
  rw [kept?, keep, List.lookup_append, kept?]
  by_cases hkey : key' = key
  · simp [List.lookup, hkey]
  · simp [List.lookup, beq_false_of_ne hkey, hkey]

/-- If a session is made for one who asks, the next one who asks for the same is given it, and all others
are answered as before. If none is made, the registry is as before. -/
theorem ask_step (r : Registry) (a : Ask) :
    (r.opens a = false ∧ r.perform a.operation = r) ∨
      ∃ session factory, r.view a = (.ok session, some factory) ∧ ∀ b, (b.key = a.key → b = a) →
        (r.perform a.operation).view b = if b.key = a.key then (.ok session, none) else r.view b := by
  have hperform : r.perform a.operation = (r.request a.dialectId a.source).2 := rfl
  have hview : r.view a = ((r.request a.dialectId a.source).1.result.map Handle.session,
    (r.request a.dialectId a.source).1.ran) := rfl
  have hstep := r.request_step a.dialectId a.source
  rw [hperform, opens, hview]
  generalize r.request a.dialectId a.source = answer at hstep ⊢
  cases hstep with
  | closed => exact .inl ⟨rfl, rfl⟩
  | unsupported => exact .inl ⟨rfl, rfl⟩
  | kept => exact .inl ⟨rfl, rfl⟩
  | failed => exact .inl ⟨rfl, rfl⟩
  | @created factory session hopen hfactory hkept _ =>
    refine .inr ⟨session, factory, rfl, fun b hsame => ?_⟩
    change (r.keep a.key session).view b = _
    split
    case isTrue hkey =>
      obtain rfl := hsame hkey
      have hfound : (r.keep b.key session).kept? (SessionKey.of b.dialectId b.source) =
          some ⟨r.created, session⟩ := by
        rw [kept?_keep, hkept]
        exact if_pos rfl
      have hopen' : (r.keep b.key session).closed = false := hopen
      have hfactory' : (r.keep b.key session).factories.lookup b.dialectId = some factory := hfactory
      simp only [view, request, hopen', hfactory', hfound, Bool.false_eq_true, if_false]
      rfl
    case isFalse hkey =>
      refine view_request_congr rfl rfl rfl ?_
      rw [kept?_keep, if_neg hkey, Option.or_none]

/-! ### Asking in turn -/

theorem calls_cons (r : Registry) (a : Ask) (asks : List Ask) :
    r.calls ((a :: asks).map Ask.operation) =
      ⟨a.dialectId, a.source, r, (r.request a.dialectId a.source).1⟩ ::
        (r.perform a.operation).calls (asks.map Ask.operation) := rfl

/-- Each who asks is answered as if nobody had asked before. -/
theorem map_outcome_calls {asks : List Ask} (h : OneObjectEach asks) (r : Registry) :
    (r.calls (asks.map Ask.operation)).map Call.outcome = asks.map fun a => (r.view a).1 := by
  induction asks generalizing r with
  | nil => rfl
  | cons a asks ih =>
    rw [calls_cons, List.map_cons, ih h.tail, List.map_cons]
    refine congrArg₂ List.cons rfl (List.map_congr_left fun b hb => ?_)
    rcases r.ask_step a with ⟨-, hsame⟩ | ⟨session, factory, hview, hnext⟩
    · rw [hsame]
    · rw [hnext b (h.eq_of_key (.head _) (.tail _ hb))]
      split
      case isTrue hkey =>
        obtain rfl := h.eq_of_key (.head _) (.tail _ hb) hkey
        rw [hview]
      case isFalse => rfl

/-- The keys for which sessions are made, in order. -/
def openings (r : Registry) (asks : List Ask) : List SessionKey :=
  (births (r.calls (asks.map Ask.operation))).map Prod.fst

theorem openings_cons (r : Registry) (a : Ask) (asks : List Ask) :
    r.openings (a :: asks) =
      (if r.opens a then [a.key] else []) ++ (r.perform a.operation).openings asks := by
  rw [openings, calls_cons, ← List.singleton_append, births_append, List.map_append]
  refine congrArg (· ++ _) ?_
  unfold opens view births Call.birth?
  obtain ⟨result, ran⟩ := (r.request a.dialectId a.source).1
  cases ran <;> cases result <;> rfl

/-- A session is made for a key exactly if one is made for somebody who asks for it, and then once. -/
theorem openings_spec {asks : List Ask} (h : OneObjectEach asks) (r : Registry) :
    (r.openings asks).Nodup ∧
      ∀ key, key ∈ r.openings asks ↔ ∃ a ∈ asks, a.key = key ∧ r.opens a = true := by
  induction asks generalizing r with
  | nil => exact ⟨.nil, by simp [openings, calls]⟩
  | cons a asks ih =>
    obtain ⟨hnodup, hmem⟩ := ih h.tail (r.perform a.operation)
    rw [openings_cons]
    rcases r.ask_step a with ⟨hclosed, hsame⟩ | ⟨session, factory, hview, hnext⟩
    · rw [hsame] at hnodup hmem ⊢
      rw [hclosed]
      refine ⟨hnodup, fun key => ?_⟩
      simp [hmem, hclosed]
    · have hopens : r.opens a = true := by rw [opens, hview]; rfl
      -- whoever asks for the same key later opens nothing
      have hlater : ∀ b ∈ asks, (r.perform a.operation).opens b = true ↔
          b.key ≠ a.key ∧ r.opens b = true := by
        intro b hb
        rw [opens, hnext b (h.eq_of_key (.head _) (.tail _ hb))]
        split
        case isTrue hkey => simp [hkey]
        case isFalse hkey => simp [hkey, opens]
      rw [hopens]
      refine ⟨?_, fun key => ?_⟩
      · refine List.nodup_cons.2 ⟨fun hagain => ?_, hnodup⟩
        obtain ⟨b, hb, hkey, hopensb⟩ := (hmem _).1 hagain
        exact ((hlater b hb).1 hopensb).1 hkey
      · simp only [if_true, List.singleton_append, List.mem_cons, hmem]
        constructor
        · rintro (rfl | ⟨b, hb, rfl, hopensb⟩)
          · exact ⟨a, .inl rfl, rfl, hopens⟩
          · exact ⟨b, .inr hb, rfl, ((hlater b hb).1 hopensb).2⟩
        · rintro ⟨b, rfl | hb, rfl, hopensb⟩
          · exact .inl rfl
          · by_cases hkey : b.key = a.key
            · exact .inl hkey
            · exact .inr ⟨b, hb, rfl, (hlater b hb).2 ⟨hkey, hopensb⟩⟩

/-- A factory is called once for each key that it makes a session for, and in vain by everybody for whom
it fails. -/
theorem factoryCalls_calls {asks : List Ask} (h : OneObjectEach asks) (r : Registry)
    (dialectId : String) :
    factoryCalls (r.calls (asks.map Ask.operation)) dialectId =
      (r.openings asks).countP (·.dialectId == dialectId) +
        asks.countP fun a => a.dialectId == dialectId && r.fails a := by
  induction asks generalizing r with
  | nil => rfl
  | cons a asks ih =>
    have hrest := ih h.tail (r.perform a.operation)
    have hfails : ∀ b ∈ asks, (r.perform a.operation).fails b = r.fails b := by
      intro b hb
      rcases r.ask_step a with ⟨-, hsame⟩ | ⟨session, factory, hview, hnext⟩
      · rw [hsame]
      · rw [fails, hnext b (h.eq_of_key (.head _) (.tail _ hb))]
        split
        case isTrue hkey =>
          obtain rfl := h.eq_of_key (.head _) (.tail _ hb) hkey
          rw [fails, hview]
          rfl
        case isFalse => rfl
    have hcount : (asks.countP fun b => b.dialectId == dialectId && (r.perform a.operation).fails b) =
        asks.countP fun b => b.dialectId == dialectId && r.fails b :=
      List.countP_congr fun b hb => by rw [hfails b hb]
    rw [hcount] at hrest
    -- a call for this one makes a session, or it is in vain
    have hfirst : (if a.dialectId == dialectId && (r.view a).2.isSome then 1 else 0) =
        (if r.opens a then [a.key] else []).countP (·.dialectId == dialectId) +
          if a.dialectId == dialectId && r.fails a then 1 else 0 := by
      have hkey : a.key.dialectId = a.dialectId := rfl
      rw [opens, fails]
      cases (r.view a).2.isSome <;> cases (r.view a).1.isOk <;> cases h : a.dialectId == dialectId <;>
        simp [hkey, h]
    rw [calls_cons, factoryCalls, List.countP_cons, ← factoryCalls, hrest, openings_cons,
      List.countP_append, List.countP_cons]
    change _ + (if a.dialectId == dialectId && (r.view a).2.isSome then 1 else 0) = _
    rw [hfirst]
    omega

/-- Behind those who asked, the new keys are the ones for which sessions were made. -/
theorem live_run_asks (r : Registry) (asks : List Ask) :
    (r.run (asks.map Ask.operation)).live.map Prod.fst = r.live.map Prod.fst ++ r.openings asks := by
  induction asks generalizing r with
  | nil => exact (List.append_nil _).symm
  | cons a asks ih =>
    have hlive : (r.perform a.operation).live.map Prod.fst =
        r.live.map Prod.fst ++ (births (r.call? a.operation).toList).map Prod.fst := by
      rw [r.live_perform (by simp [Ask.operation]), List.map_append]
    calc (r.run ((a :: asks).map Ask.operation)).live.map Prod.fst
        = (r.perform a.operation).live.map Prod.fst ++ (r.perform a.operation).openings asks :=
          ih (r.perform a.operation)
      _ = r.live.map Prod.fst ++ r.openings (a :: asks) := by
          rw [hlive, List.append_assoc, openings, openings, ← List.map_append, ← births_append]
          rfl

theorem openings_perm {asks asks' : List Ask} (hperm : asks.Perm asks') (h : OneObjectEach asks)
    (r : Registry) : (r.openings asks).Perm (r.openings asks') := by
  have h' : OneObjectEach asks' := fun a ha b hb => h a (hperm.mem_iff.2 ha) b (hperm.mem_iff.2 hb)
  obtain ⟨hnodup, hmem⟩ := openings_spec h r
  obtain ⟨hnodup', hmem'⟩ := openings_spec h' r
  refine (List.perm_ext_iff_of_nodup hnodup hnodup').2 fun key => ?_
  simp only [hmem, hmem', hperm.mem_iff]

/-- Clients may ask in any order. Each is answered with a session of the same dialect, dialect id, source
and naming, or with the same error. In the end there are the same keys, and for each dialect id factories
were called as often. -/
theorem asks_in_any_order (r : Registry) {asks asks' : List Ask} (hperm : asks.Perm asks')
    (hobjects : OneObjectEach asks) :
    let cs := r.calls (asks.map Ask.operation)
    let cs' := r.calls (asks'.map Ask.operation)
    (∃ answer : Ask → Except Failure Session,
      cs.map Call.outcome = asks.map answer ∧ cs'.map Call.outcome = asks'.map answer) ∧
    (r.run (asks.map Ask.operation)).keys = (r.run (asks'.map Ask.operation)).keys ∧
    (r.run (asks.map Ask.operation)).size = (r.run (asks'.map Ask.operation)).size ∧
    ∀ dialectId, factoryCalls cs dialectId = factoryCalls cs' dialectId := by
  intro cs cs'
  have hobjects' : OneObjectEach asks' :=
    fun a ha b hb => hobjects a (hperm.mem_iff.2 ha) b (hperm.mem_iff.2 hb)
  have hopenings := openings_perm hperm hobjects r
  have hlive : ((r.run (asks.map Ask.operation)).live.map Prod.fst).Perm
      ((r.run (asks'.map Ask.operation)).live.map Prod.fst) := by
    rw [live_run_asks, live_run_asks]
    exact hopenings.append_left _
  refine ⟨⟨fun a => (r.view a).1, ?_, ?_⟩, keys_eq_of_perm hlive, ?_, fun dialectId => ?_⟩
  · exact map_outcome_calls hobjects r
  · exact map_outcome_calls hobjects' r
  · simpa [size] using hlive.length_eq
  · rw [factoryCalls_calls hobjects, factoryCalls_calls hobjects', hopenings.countP_eq,
      hperm.countP_eq]

/-- A session that is asked for twice and a factory that fails, from either end. -/
theorem asks_in_any_order_backwards :
    let r : Registry := { standard .identity with
      factories := [("broken", .custom fun _ => .error .brokeDown), ("sqlite", .binding .sqlite)] }
    let memory : ConnectionSource := ⟨0, .url, "sqlite::memory:"⟩
    let asks : List Ask := [⟨"sqlite", memory⟩, ⟨"broken", memory⟩, ⟨"sqlite", memory⟩, ⟨"oracle", memory⟩]
    asks.Perm asks.reverse ∧ OneObjectEach asks ∧
      (r.run (asks.map Ask.operation)).keys = (r.run (asks.reverse.map Ask.operation)).keys ∧
      factoryCalls (r.calls (asks.map Ask.operation)) "sqlite" = 1 ∧
      factoryCalls (r.calls (asks.reverse.map Ask.operation)) "sqlite" = 1 := by
  intro r memory asks
  have hperm : asks.Perm asks.reverse := (List.reverse_perm asks).symm
  have hobjects : OneObjectEach asks := by
    simp [OneObjectEach, asks]
  obtain ⟨-, hkeys, -, hcalls⟩ := asks_in_any_order r hperm hobjects
  have hone : factoryCalls (r.calls (asks.map Ask.operation)) "sqlite" = 1 := rfl
  exact ⟨hperm, hobjects, hkeys, hone, (hcalls "sqlite").symm.trans hone⟩

end Registry

end ModelIdl
