import Mathlib.Data.List.Nodup
import ModelIdl.Session.Registry

/-!
# ModelIdl.Proofs.Session.Runs

Runs of a registry: any operations in any order. Each call holds the registry alone, so calls from
several threads are such a run too. Design points:

* **Factories do as they like.** One that binds a dialect always does. Any other may succeed, fail or
  break down, and may do otherwise the next time: between two operations such factories can *turn*.
* **Calls** are the requests of a run, each with the registry it met and the answer it got.
* **The ledger** is what holds between the calls so far and the registry (`Ledger`). Every operation
  keeps it (`Ledger.step`), so every run does (`Ledger.run`).
* **One session for each key.** That is what the ledger says of calls. Keys tell sources by their places;
  which sources share a key is the matter of `ModelIdl.Proofs.Session.Lifetimes`.
-/

namespace ModelIdl

/-! ### Operations -/

/-- What can be done with a registry. -/
inductive Operation where
  | register (dialectId : String) (factory : Factory)
  | request (dialectId : String) (source : ConnectionSource)
  /-- A request that names no dialect. -/
  | requestDefault (source : ConnectionSource)
  | close
  /-- Nothing is done with the registry, but the factories that do as they like change their ways: each
  answers from now on as given for its dialect id. -/
  | turn (answers : String → SessionContext → Except Failure Session)

/-- The factory with other ways, unless it binds a dialect. -/
def Factory.turned (answers : SessionContext → Except Failure Session) : Factory → Factory
  | .binding dialect => .binding dialect
  | .custom _ => .custom answers

/-- The dialect id and the source that an operation asks a session for. -/
def Operation.asked? : Operation → Option (String × ConnectionSource)
  | .request dialectId source => some (dialectId, source)
  | .requestDefault source => some (Registry.defaultDialect, source)
  | _ => none

/-- A request, the registry that it met, and the answer that it got. -/
structure Call where
  dialectId : String
  source : ConnectionSource
  before : Registry
  grant : Grant

namespace Call

/-- The key that is asked for. -/
def key (c : Call) : SessionKey :=
  SessionKey.of c.dialectId c.source

/-- The session that a factory made for the call, under its key. -/
def birth? (c : Call) : Option (SessionKey × Handle) :=
  match c.grant.ran, c.grant.result with
  | some _, .ok handle => some (c.key, handle)
  | _, _ => none

end Call

namespace Registry

/-- The registry with factories that turned. -/
def turn (r : Registry) (answers : String → SessionContext → Except Failure Session) : Registry :=
  { r with factories := r.factories.map fun (id, factory) => (id, factory.turned (answers id)) }

/-- The registry behind an operation. -/
def perform (r : Registry) : Operation → Registry
  | .register dialectId factory =>
    match r.register dialectId factory with
    | .ok r' => r'
    | .error _ => r
  | .request dialectId source => (r.request dialectId source).2
  | .requestDefault source => (r.request defaultDialect source).2
  | .close => r.close.2
  | .turn answers => r.turn answers

/-- The registry behind a run. -/
def run (r : Registry) (ops : List Operation) : Registry :=
  ops.foldl perform r

/-- The call that an operation makes, if it makes one. -/
def call? (r : Registry) (op : Operation) : Option Call :=
  op.asked?.map fun (dialectId, source) =>
    ⟨dialectId, source, r, (r.request dialectId source).1⟩

theorem grant_of_call? {r : Registry} {op : Operation} {c : Call} (h : r.call? op = some c) :
    c.grant = (r.request c.dialectId c.source).1 := by
  obtain ⟨asked, -, rfl⟩ := Option.map_eq_some_iff.1 h
  rfl

/-- The calls of a run, in order. -/
def calls (r : Registry) : List Operation → List Call
  | [] => []
  | op :: ops => (r.call? op).toList ++ calls (r.perform op) ops

/-! ### Requests -/

/-- What a request can come to. -/
inductive RequestStep (r : Registry) (dialectId : String) (source : ConnectionSource) :
    Grant × Registry → Prop
  | closed (hclosed : r.closed = true) :
      RequestStep r dialectId source (⟨.error (.error .registryClosed), none⟩, r)
  | unsupported (hopen : r.closed = false) (hfactory : r.factories.lookup dialectId = none) :
      RequestStep r dialectId source (⟨.error (.error (.unsupportedDialect dialectId)), none⟩, r)
  | kept {factory : Factory} {handle : Handle} (hopen : r.closed = false)
      (hfactory : r.factories.lookup dialectId = some factory)
      (hkept : r.kept? (SessionKey.of dialectId source) = some handle) :
      RequestStep r dialectId source (⟨.ok handle, none⟩, r)
  | failed {factory : Factory} {e : Failure} (hopen : r.closed = false)
      (hfactory : r.factories.lookup dialectId = some factory)
      (hkept : r.kept? (SessionKey.of dialectId source) = none)
      (hcreate : factory.create ⟨dialectId, source, r.naming⟩ = .error e) :
      RequestStep r dialectId source (⟨.error e, some factory⟩, r)
  | created {factory : Factory} {session : Session} (hopen : r.closed = false)
      (hfactory : r.factories.lookup dialectId = some factory)
      (hkept : r.kept? (SessionKey.of dialectId source) = none)
      (hcreate : factory.create ⟨dialectId, source, r.naming⟩ = .ok session) :
      RequestStep r dialectId source
        (⟨.ok ⟨r.created, session⟩, some factory⟩, r.keep (SessionKey.of dialectId source) session)

theorem request_step (r : Registry) (dialectId : String) (source : ConnectionSource) :
    RequestStep r dialectId source (r.request dialectId source) := by
  unfold request
  cases hclosed : r.closed with
  | true => exact .closed hclosed
  | false =>
    simp only [Bool.false_eq_true, if_false]
    cases hfactory : r.factories.lookup dialectId with
    | none => exact .unsupported hclosed hfactory
    | some factory =>
      simp only
      cases hkept : r.kept? (SessionKey.of dialectId source) with
      | some handle => exact .kept hclosed hfactory hkept
      | none =>
        simp only
        cases hcreate : factory.create ⟨dialectId, source, r.naming⟩ with
        | error e => exact .failed hclosed hfactory hkept hcreate
        | ok session => exact .created hclosed hfactory hkept hcreate

/-- No request closes the registry. -/
theorem closed_request (r : Registry) (dialectId : String) (source : ConnectionSource) :
    (r.request dialectId source).2.closed = r.closed := by
  have hstep := r.request_step dialectId source
  generalize r.request dialectId source = answer at hstep ⊢
  cases hstep <;> rfl

/-- Only an open registry hands out sessions. -/
theorem open_of_granted {r : Registry} {dialectId : String} {source : ConnectionSource} {handle : Handle}
    (h : (r.request dialectId source).1.result = .ok handle) : r.closed = false := by
  have hstep := r.request_step dialectId source
  generalize r.request dialectId source = answer at h hstep
  cases hstep with
  | closed => cases h
  | unsupported hopen => exact hopen
  | kept hopen => exact hopen
  | failed hopen => exact hopen
  | created hopen => exact hopen

end Registry

/-! ### The ledger -/

/-- The sessions that factories made for the calls, each under its key, in order. -/
def births (cs : List Call) : List (SessionKey × Handle) :=
  cs.filterMap Call.birth?

@[simp] theorem births_nil : births [] = [] := rfl

@[simp] theorem births_append (cs ds : List Call) : births (cs ++ ds) = births cs ++ births ds := by
  simp [births]

/-- What holds of the calls of a run. -/
structure History (naming : Naming) (cs : List Call) : Prop where
  /-- No session was made twice. -/
  keys_nodup : ((births cs).map (·.1)).Nodup
  /-- What was handed out had been made by then. -/
  granted : ∀ front c back, cs = front ++ c :: back → ∀ handle, c.grant.result = .ok handle →
    (c.key, handle) ∈ births (front ++ [c])
  /-- Where a factory ran, none had made the session yet. -/
  unborn : ∀ front c back, cs = front ++ c :: back → c.grant.ran ≠ none →
    c.key ∉ (births front).map (·.1)
  /-- The factory that ran was the one of the dialect id, and it was told what the call asked for. -/
  built : ∀ c ∈ cs, ∀ factory, c.grant.ran = some factory →
    c.before.factories.lookup c.dialectId = some factory ∧
      ∀ handle, c.grant.result = .ok handle →
        factory.create ⟨c.dialectId, c.source, naming⟩ = .ok handle.session

/-- What holds between the calls so far and the registry behind them. -/
structure Ledger (naming : Naming) (cs : List Call) (r : Registry) : Prop extends History naming cs where
  /-- An open registry keeps the sessions that were made. -/
  live_of_open : r.closed = false → r.live = births cs
  /-- A closed one keeps none. -/
  live_of_closed : r.closed = true → r.live = []
  /-- The sessions are numbered in the order they were made. -/
  numbers : (births cs).map (·.2.number) = List.range r.created
  naming_eq : r.naming = naming

/-- A split of calls with a last one is a split before it, or at it. -/
theorem split_append_singleton {cs front back : List Call} {c d : Call}
    (h : cs ++ [d] = front ++ c :: back) :
    (front = cs ∧ c = d) ∨ ∃ back', cs = front ++ c :: back' := by
  rcases List.eq_nil_or_concat back with rfl | ⟨back', e, rfl⟩
  · obtain ⟨hfront, hlast⟩ := List.append_inj' h rfl
    exact .inl ⟨hfront.symm, (List.cons.inj hlast).1.symm⟩
  · have hsplit : cs ++ [d] = (front ++ c :: back') ++ [e] := by simp [h]
    exact .inr ⟨back', (List.append_inj' hsplit rfl).1⟩

theorem Call.ran_of_mem_births {c : Call} {birth : SessionKey × Handle} (h : birth ∈ births [c]) :
    birth.1 = c.key ∧ c.grant.result = .ok birth.2 ∧ c.grant.ran ≠ none := by
  simp only [births, List.filterMap_cons, List.filterMap_nil] at h
  unfold Call.birth? at h
  split at h
  · cases h
  · rename_i hbirth
    split at hbirth
    · rename_i hran hresult
      cases hbirth
      obtain rfl := List.mem_singleton.1 h
      exact ⟨rfl, hresult, by simp [hran]⟩
    · cases hbirth

theorem History.append {naming : Naming} {cs : List Call} {c : Call} (h : History naming cs)
    (hgranted : ∀ handle, c.grant.result = .ok handle → (c.key, handle) ∈ births (cs ++ [c]))
    (hunborn : c.grant.ran ≠ none → c.key ∉ (births cs).map (·.1))
    (hbuilt : ∀ factory, c.grant.ran = some factory →
      c.before.factories.lookup c.dialectId = some factory ∧
        ∀ handle, c.grant.result = .ok handle →
          factory.create ⟨c.dialectId, c.source, naming⟩ = .ok handle.session) :
    History naming (cs ++ [c]) where
  keys_nodup := by
    rw [births_append, List.map_append]
    refine List.nodup_append.2 ⟨h.keys_nodup, ?_, ?_⟩
    · unfold births
      cases hbirth : c.birth? <;> simp [hbirth]
    · intro key hkey key' hkey' heq
      obtain ⟨birth, hbirth, rfl⟩ := List.mem_map.1 hkey'
      obtain ⟨hsame, -, hran⟩ := Call.ran_of_mem_births hbirth
      exact hunborn hran (by rw [← hsame, ← heq]; exact hkey)
  granted := by
    intro front d back hsplit
    rcases split_append_singleton hsplit with ⟨rfl, rfl⟩ | ⟨back', hcs⟩
    · exact hgranted
    · exact h.granted front d back' hcs
  unborn := by
    intro front d back hsplit
    rcases split_append_singleton hsplit with ⟨rfl, rfl⟩ | ⟨back', hcs⟩
    · exact hunborn
    · exact h.unborn front d back' hcs
  built := by
    intro d hd
    rcases List.mem_append.1 hd with hd | hd
    · exact h.built d hd
    · obtain rfl := List.mem_singleton.1 hd
      exact hbuilt

namespace Ledger

variable {naming : Naming} {cs : List Call} {r : Registry}

/-- A registry that was just opened has an empty ledger. -/
theorem start (hopen : r.closed = false) (hlive : r.live = []) (hcreated : r.created = 0) :
    Ledger r.naming [] r where
  keys_nodup := .nil
  granted := fun front c back h => by simp at h
  unborn := fun front c back h => by simp at h
  built := fun c hc => by cases hc
  live_of_open := fun _ => hlive
  live_of_closed := fun hclosed => by simp [hopen] at hclosed
  numbers := by rw [hcreated]; rfl
  naming_eq := rfl

/-- A new registry has an empty ledger. -/
theorem of_new (hstart : r = .empty naming ∨ r = .standard naming) : Ledger naming [] r := by
  rcases hstart with rfl | rfl
  · exact start (r := .empty naming) rfl rfl rfl
  · exact start (r := .standard naming) rfl rfl rfl

/-- The factories of the registry do not matter to the ledger. -/
theorem congr (h : Ledger naming cs r) {r' : Registry} (hlive : r'.live = r.live)
    (hcreated : r'.created = r.created) (hclosed : r'.closed = r.closed)
    (hnaming : r'.naming = r.naming) : Ledger naming cs r' where
  toHistory := h.toHistory
  live_of_open := by rw [hclosed, hlive]; exact h.live_of_open
  live_of_closed := by rw [hclosed, hlive]; exact h.live_of_closed
  numbers := by rw [hcreated]; exact h.numbers
  naming_eq := by rw [hnaming]; exact h.naming_eq

theorem close (h : Ledger naming cs r) : Ledger naming cs r.close.2 := by
  unfold Registry.close
  cases hclosed : r.closed with
  | true =>
    simp only [if_true]
    exact h
  | false =>
    simp only [Bool.false_eq_true, if_false]
    exact { h with
      live_of_open := fun hopen => by cases hopen
      live_of_closed := fun _ => rfl }

theorem mem_births_of_kept? (h : Ledger naming cs r) (hopen : r.closed = false) {key : SessionKey}
    {handle : Handle} (hkept : r.kept? key = some handle) : (key, handle) ∈ births cs := by
  rw [Registry.kept?, h.live_of_open hopen] at hkept
  obtain ⟨front, back, hbirths, -⟩ := List.lookup_eq_some_iff.1 hkept
  rw [hbirths]
  exact List.mem_append_right _ (.head _)

theorem not_mem_births_of_kept? (h : Ledger naming cs r) (hopen : r.closed = false) {key : SessionKey}
    (hkept : r.kept? key = none) : key ∉ (births cs).map (·.1) := by
  rw [Registry.kept?, h.live_of_open hopen, List.lookup_eq_none_iff] at hkept
  intro hmem
  obtain ⟨birth, hbirth, rfl⟩ := List.mem_map.1 hmem
  simpa using hkept birth hbirth

/-- A call for which no factory made a session leaves the registry in order. -/
theorem append_of_history (h : Ledger naming cs r) {c : Call} (hhistory : History naming (cs ++ [c]))
    (hbirth : c.birth? = none) : Ledger naming (cs ++ [c]) r := by
  have hbirths : births (cs ++ [c]) = births cs := by simp [births, hbirth]
  exact {
    toHistory := hhistory
    live_of_open := by rw [hbirths]; exact h.live_of_open
    live_of_closed := h.live_of_closed
    numbers := by rw [hbirths]; exact h.numbers
    naming_eq := h.naming_eq }

/-- A request is entered into the ledger. -/
theorem request (h : Ledger naming cs r) (dialectId : String) (source : ConnectionSource) :
    Ledger naming (cs ++ [⟨dialectId, source, r, (r.request dialectId source).1⟩])
      (r.request dialectId source).2 := by
  have hstep := r.request_step dialectId source
  generalize r.request dialectId source = answer at hstep ⊢
  cases hstep with
  | closed hclosed =>
    refine h.append_of_history (h.append ?_ ?_ ?_) rfl
    · intro handle hresult
      cases hresult
    · intro hran
      exact absurd rfl hran
    · intro factory hran
      cases hran
  | unsupported hopen hfactory =>
    refine h.append_of_history (h.append ?_ ?_ ?_) rfl
    · intro handle hresult
      cases hresult
    · intro hran
      exact absurd rfl hran
    · intro factory hran
      cases hran
  | @kept factory handle hopen hfactory hkept =>
    refine h.append_of_history (h.append ?_ ?_ ?_) rfl
    · intro handle' hresult
      cases hresult
      rw [births_append]
      exact List.mem_append_left _ (h.mem_births_of_kept? hopen hkept)
    · intro hran
      exact absurd rfl hran
    · intro factory hran
      cases hran
  | @failed factory e hopen hfactory hkept hcreate =>
    refine h.append_of_history (h.append ?_ ?_ ?_) rfl
    · intro handle hresult
      cases hresult
    · intro _
      exact h.not_mem_births_of_kept? hopen hkept
    · intro factory' hran
      cases hran
      exact ⟨hfactory, fun handle hresult => by cases hresult⟩
  | @created factory session hopen hfactory hkept hcreate =>
    have hnew : births [(⟨dialectId, source, r, ⟨.ok ⟨r.created, session⟩, some factory⟩⟩ : Call)] =
        [(SessionKey.of dialectId source, ⟨r.created, session⟩)] := rfl
    refine { h.append ?_ ?_ ?_ with
      live_of_open := ?_, live_of_closed := ?_, numbers := ?_, naming_eq := h.naming_eq }
    · intro handle hresult
      cases hresult
      rw [births_append, hnew]
      exact List.mem_append_right _ (.head _)
    · intro _
      exact h.not_mem_births_of_kept? hopen hkept
    · intro factory' hran
      cases hran
      refine ⟨hfactory, fun handle hresult => ?_⟩
      cases hresult
      rw [← h.naming_eq]
      exact hcreate
    · intro _
      rw [births_append, hnew, ← h.live_of_open hopen]
      rfl
    · intro hclosed
      rw [Registry.keep, hopen] at hclosed
      cases hclosed
    · rw [births_append, hnew, List.map_append, h.numbers]
      exact List.range_succ.symm

/-- Every operation keeps the ledger. -/
theorem step (h : Ledger naming cs r) (op : Operation) :
    Ledger naming (cs ++ (r.call? op).toList) (r.perform op) := by
  cases op with
  | request dialectId source => exact h.request dialectId source
  | requestDefault source => exact h.request Registry.defaultDialect source
  | register dialectId factory =>
    rw [show cs ++ (r.call? (.register dialectId factory)).toList = cs by simp [Registry.call?,
      Operation.asked?]]
    unfold Registry.perform Registry.register
    cases hclosed : r.closed with
    | true => exact h
    | false => exact h.congr rfl rfl hclosed.symm rfl
  | close =>
    rw [show cs ++ (r.call? .close).toList = cs by simp [Registry.call?, Operation.asked?]]
    exact h.close
  | turn answers =>
    rw [show cs ++ (r.call? (.turn answers)).toList = cs by simp [Registry.call?, Operation.asked?]]
    exact h.congr rfl rfl rfl rfl

/-- Every run keeps the ledger. -/
theorem run (h : Ledger naming cs r) (ops : List Operation) :
    Ledger naming (cs ++ r.calls ops) (r.run ops) := by
  induction ops generalizing cs r with
  | nil =>
    rw [Registry.calls, List.append_nil]
    exact h
  | cons op ops ih =>
    rw [Registry.calls, ← List.append_assoc]
    exact ih (h.step op)

end Ledger

/-! ### One session for each key -/

namespace History

variable {naming : Naming} {cs : List Call}

theorem mem_births (h : History naming cs) {c : Call} (hc : c ∈ cs) {handle : Handle}
    (hresult : c.grant.result = .ok handle) : (c.key, handle) ∈ births cs := by
  obtain ⟨front, back, hsplit⟩ := List.append_of_mem hc
  have hbirth := h.granted front c back hsplit handle hresult
  rw [hsplit, List.append_cons, births_append]
  exact List.mem_append_left _ hbirth

end History

namespace Ledger

variable {naming : Naming} {cs : List Call} {r : Registry}

/-- A registry keeps no session that was not made. -/
theorem live_sublist_births (h : Ledger naming cs r) : r.live.Sublist (births cs) := by
  cases hclosed : r.closed with
  | true =>
    rw [h.live_of_closed hclosed]
    exact List.nil_sublist _
  | false => rw [h.live_of_open hclosed]

/-- Calls that are handed out one session are for one key. -/
theorem key_eq_of_number (h : Ledger naming cs r) {c d : Call} (hc : c ∈ cs) (hd : d ∈ cs)
    {handle handle' : Handle} (hresult : c.grant.result = .ok handle)
    (hresult' : d.grant.result = .ok handle') (hnumber : handle.number = handle'.number) :
    c.key = d.key := by
  have hnodup : ((births cs).map (·.2.number)).Nodup := by
    rw [h.numbers]
    exact List.nodup_range
  have hbirth := h.mem_births hc hresult
  have hbirth' := h.mem_births hd hresult'
  exact congrArg Prod.fst (List.inj_on_of_nodup_map hnodup hbirth hbirth' hnumber)

end Ledger

end ModelIdl
