import Mathlib
import ModelIdl.Proofs.Session.Lifecycle

/-!
# ModelIdl.Proofs.Session.Lifetimes

Sources that come and go while a registry is asked for sessions. A source is made in a place that is free,
and keeps it until nothing holds the source any longer. Design points:

* **A source is more than what can be seen of it.** Sources are numbered as they are made. Two of them may
  have one place and one URL, if the one is gone when the other is made.
* **What a kept session is bound to stays.** A session holds the source that it is bound to, so that source
  does not go while the registry keeps the session. Whatever else holds a source may let go of it or not: the
  source may go at any time, or never.
* **A call is one event.** The source that it asks for exists until the call is over, and a source that a
  factory makes within the call counts as made in front of it.
* **Any events in any order are a run.** An event that is not possible does not happen (`Scene.Effect`).
* **A key stays with its source, if its session holds it.** Then the source is in its place as long as the
  session is kept, so no other source can be made there. This is what carries the main results
  (`Scene.Sound`); every event keeps it.
-/

namespace ModelIdl

/-! ### Scenes -/

/-- A call with the number of the source that it asks for. -/
structure ObjectCall extends Call where
  object : Nat

/-- A registry among sources. -/
structure Scene where
  registry : Registry
  /-- The sources made so far; they are numbered from zero. -/
  made : List ConnectionSource
  /-- The numbers of those that still exist. -/
  existing : List Nat
  /-- The calls so far, in order. -/
  calls : List ObjectCall

/-- What can happen among sources. -/
inductive Event where
  /-- A source is made. -/
  | make (source : ConnectionSource)
  /-- The last that held a source lets go of it. -/
  | release (object : Nat)
  /-- Something is done with the registry. -/
  | operate (op : Operation)

namespace Scene

/-- A registry before any source is made. -/
def around (r : Registry) : Scene :=
  ⟨r, [], [], []⟩

/-- The place where a source was made. -/
def place? (w : Scene) (object : Nat) : Option Nat :=
  w.made[object]?.map (·.identity)

/-- The source with a number exists, and this is what can be seen of it. -/
structure Has (w : Scene) (object : Nat) (source : ConnectionSource) : Prop where
  existing : object ∈ w.existing
  made : w.made[object]? = some source

/-- The number of the source that exists and looks like this, if there is one. -/
def object? (w : Scene) (source : ConnectionSource) : Option Nat :=
  w.existing.find? fun object => w.made[object]? = some source

/-- No source that exists is in a place. -/
def Vacant (w : Scene) (place : Nat) : Prop :=
  ∀ object ∈ w.existing, w.place? object ≠ some place

instance (w : Scene) (place : Nat) : Decidable (w.Vacant place) :=
  inferInstanceAs (Decidable (∀ object ∈ w.existing, w.place? object ≠ some place))

/-- The registry keeps a session that is bound to a source in the place of this one. -/
def Bound (w : Scene) (object : Nat) : Prop :=
  ∃ entry ∈ w.registry.live, w.place? object = some entry.2.session.source.identity

instance (w : Scene) (object : Nat) : Decidable (w.Bound object) :=
  inferInstanceAs (Decidable (∃ entry ∈ w.registry.live, _))

/-- The scene behind an event. A source is not made where another one is, it does not go while a kept session
is bound to it, and only for one that exists can a session be asked. -/
def perform (w : Scene) : Event → Scene
  | .make source =>
    if w.Vacant source.identity then
      { w with made := w.made ++ [source], existing := w.made.length :: w.existing }
    else w
  | .release object =>
    if w.Bound object then w else { w with existing := w.existing.filter (· ≠ object) }
  | .operate op =>
    match w.registry.call? op with
    | none => { w with registry := w.registry.perform op }
    | some call =>
      match w.object? call.source with
      | none => w
      | some object =>
        { w with registry := w.registry.perform op, calls := w.calls ++ [⟨call, object⟩] }

/-- The scene behind a run. -/
def run (w : Scene) (events : List Event) : Scene :=
  events.foldl perform w

theorem run_append (w : Scene) (front back : List Event) :
    w.run (front ++ back) = (w.run front).run back :=
  List.foldl_append

theorem Has.place?_eq {w : Scene} {object : Nat} {source : ConnectionSource} (h : w.Has object source) :
    w.place? object = some source.identity := by
  rw [place?, h.made, Option.map_some]

theorem has_of_object? {w : Scene} {source : ConnectionSource} {object : Nat}
    (h : w.object? source = some object) : w.Has object source :=
  ⟨List.mem_of_find?_eq_some h, by simpa using List.find?_some h⟩

/-- What an event can come to. -/
inductive Effect (w : Scene) : Event → Scene → Prop
  /-- It was not possible. Of the operations, only one that calls for a session may be impossible. -/
  | idle {event : Event} (h : ∀ op, event = .operate op → w.registry.call? op ≠ none) : Effect w event w
  | made {source : ConnectionSource} (hvacant : w.Vacant source.identity) :
      Effect w (.make source)
        { w with made := w.made ++ [source], existing := w.made.length :: w.existing }
  | released {object : Nat} (hunbound : ¬ w.Bound object) :
      Effect w (.release object) { w with existing := w.existing.filter (· ≠ object) }
  | managed {op : Operation} (hcall : w.registry.call? op = none) :
      Effect w (.operate op) { w with registry := w.registry.perform op }
  | asked {op : Operation} {call : Call} {object : Nat} (hcall : w.registry.call? op = some call)
      (hsource : w.Has object call.source) :
      Effect w (.operate op)
        { w with registry := w.registry.perform op, calls := w.calls ++ [⟨call, object⟩] }

theorem perform_effect (w : Scene) (event : Event) : w.Effect event (w.perform event) := by
  cases event with
  | make source =>
    rw [perform]
    split
    case isTrue hvacant => exact .made hvacant
    case isFalse => exact .idle fun op heq => by cases heq
  | release object =>
    rw [perform]
    split
    case isTrue => exact .idle fun op heq => by cases heq
    case isFalse hunbound => exact .released hunbound
  | operate op =>
    rw [perform]
    cases hcall : w.registry.call? op with
    | none => exact .managed hcall
    | some call =>
      simp only
      cases hobject : w.object? call.source with
      | none =>
        refine .idle fun op' heq => ?_
        cases heq
        simp [hcall]
      | some object => exact .asked hcall (has_of_object? hobject)

/-! ### Soundness -/

/-- What holds in every scene of a run. -/
structure Sound (naming : Naming) (w : Scene) : Prop where
  ledger : Ledger naming (w.calls.map ObjectCall.toCall) w.registry
  /-- What exists was made. -/
  existing_lt : ∀ object ∈ w.existing, object < w.made.length
  /-- No two sources that exist are in one place. -/
  apart : ∀ m ∈ w.existing, ∀ n ∈ w.existing, w.place? m = w.place? n → m = n
  /-- The source that a call asked for had been made. -/
  asked : ∀ c ∈ w.calls, w.made[c.object]? = some c.source
  /-- As long as the registry is open, a source exists that a session was handed out for and that the
  session holds. -/
  stays : w.registry.closed = false → ∀ c ∈ w.calls, ∀ handle, c.grant.result = .ok handle →
    c.key.HeldBy handle.session → c.object ∈ w.existing
  /-- A session that holds the source of a call is handed out for no other source. -/
  alike : ∀ c ∈ w.calls, ∀ d ∈ w.calls, ∀ handle, c.grant.result = .ok handle →
    d.grant.result = .ok handle → c.key.HeldBy handle.session → c.object = d.object

end Scene

theorem SessionKey.HeldBy.identity_eq {key : SessionKey} {session : Session} (h : key.HeldBy session) :
    session.source.identity = key.source :=
  congrArg SessionKey.source h

namespace Scene

/-- No source has been made around a new registry. -/
theorem Sound.start {naming : Naming} {r : Registry} (h : Ledger naming [] r) : (around r).Sound naming where
  ledger := h
  existing_lt := fun object hobject => by cases hobject
  apart := fun m hm => by cases hm
  asked := fun c hc => by cases hc
  stays := fun _ c hc => by cases hc
  alike := fun c hc => by cases hc

namespace Sound

variable {naming : Naming} {w : Scene}

theorem place?_of_mem (h : w.Sound naming) {c : ObjectCall} (hc : c ∈ w.calls) :
    w.place? c.object = some c.source.identity := by
  rw [place?, h.asked c hc, Option.map_some]

/-- A source that a kept session holds is bound to stay. -/
theorem bound (h : w.Sound naming) (hopen : w.registry.closed = false) {c : ObjectCall} (hc : c ∈ w.calls)
    {handle : Handle} (hresult : c.grant.result = .ok handle) (hheld : c.key.HeldBy handle.session) :
    w.Bound c.object := by
  refine ⟨(c.key, handle), ?_, ?_⟩
  · rw [h.ledger.live_of_open hopen]
    exact h.ledger.mem_births (List.mem_map_of_mem hc) hresult
  · rw [h.place?_of_mem hc]
    exact congrArg some hheld.identity_eq.symm

theorem make (h : w.Sound naming) {source : ConnectionSource} (hvacant : w.Vacant source.identity) :
    Sound naming { w with made := w.made ++ [source], existing := w.made.length :: w.existing } := by
  have hold {object : Nat} (hlt : object < w.made.length) : (w.made ++ [source])[object]? = w.made[object]? :=
    List.getElem?_append_left hlt
  have hplace {object : Nat} (hobject : object ∈ w.existing) :
      (w.made ++ [source])[object]?.map (·.identity) = w.place? object := by
    rw [hold (h.existing_lt object hobject), place?]
  have hnew : (w.made ++ [source])[w.made.length]?.map (·.identity) = some source.identity := by simp
  refine { ledger := h.ledger, existing_lt := ?_, apart := ?_, asked := ?_, stays := ?_, alike := h.alike }
  · intro object hobject
    rw [List.length_append, List.length_singleton]
    rcases List.mem_cons.1 hobject with rfl | hobject
    · exact Nat.lt_succ_self _
    · exact Nat.lt_succ_of_lt (h.existing_lt object hobject)
  · -- the place was vacant, so nothing that existed is where the new source is
    intro m hm n hn hsame
    rcases List.mem_cons.1 hm with rfl | hm <;> rcases List.mem_cons.1 hn with rfl | hn
    · rfl
    · rw [place?, place?, hnew, hplace hn] at hsame
      exact absurd hsame.symm (hvacant n hn)
    · rw [place?, place?, hnew, hplace hm] at hsame
      exact absurd hsame (hvacant m hm)
    · rw [place?, place?, hplace hm, hplace hn] at hsame
      exact h.apart m hm n hn hsame
  · intro c hc
    have hmade := h.asked c hc
    rw [hold (List.getElem?_eq_some_iff.1 hmade).1]
    exact hmade
  · intro hopen c hc handle hresult hheld
    exact List.mem_cons_of_mem _ (h.stays hopen c hc handle hresult hheld)

theorem release (h : w.Sound naming) {object : Nat} (hunbound : ¬ w.Bound object) :
    Sound naming { w with existing := w.existing.filter (· ≠ object) } where
  ledger := h.ledger
  existing_lt := fun n hn => h.existing_lt n (List.mem_filter.1 hn).1
  apart := fun m hm n hn => h.apart m (List.mem_filter.1 hm).1 n (List.mem_filter.1 hn).1
  asked := h.asked
  stays := by
    intro hopen c hc handle hresult hheld
    have hne : c.object ≠ object := by
      rintro rfl
      exact hunbound (h.bound hopen hc hresult hheld)
    exact List.mem_filter.2 ⟨h.stays hopen c hc handle hresult hheld, by simpa using hne⟩
  alike := h.alike

theorem manage (h : w.Sound naming) {op : Operation} (hcall : w.registry.call? op = none) :
    Sound naming { w with registry := w.registry.perform op } where
  ledger := by
    have hstep := h.ledger.step op
    rwa [hcall, Option.toList_none, List.append_nil] at hstep
  existing_lt := h.existing_lt
  apart := h.apart
  asked := h.asked
  stays := fun hopen => h.stays (Registry.open_of_perform hopen)
  alike := h.alike

/-- A session that holds the source of an earlier call is handed out for the same source again. -/
theorem object_eq_of_granted (h : w.Sound naming) {op : Operation} {new : ObjectCall}
    (hledger : Ledger naming ((w.calls ++ [new]).map ObjectCall.toCall) (w.registry.perform op))
    (hcall : w.registry.call? op = some new.toCall) (hsource : w.Has new.object new.source)
    {c : ObjectCall} (hc : c ∈ w.calls) {handle : Handle} (hresult : c.grant.result = .ok handle)
    (hnew : new.grant.result = .ok handle) (hheld : c.key.HeldBy handle.session) :
    c.object = new.object := by
  have hopen : w.registry.closed = false := by
    rw [Registry.grant_of_call? hcall] at hnew
    exact Registry.open_of_granted hnew
  have hkey : c.key = new.key :=
    hledger.key_eq_of_number (List.mem_map_of_mem (List.mem_append_left _ hc))
      (List.mem_map_of_mem (List.mem_append_right _ (.head _))) hresult hnew rfl
  -- both sources exist now, and the key is of one place
  refine h.apart _ (h.stays hopen c hc handle hresult hheld) _ hsource.existing ?_
  rw [h.place?_of_mem hc, hsource.place?_eq]
  exact congrArg some (congrArg SessionKey.source hkey)

theorem ask (h : w.Sound naming) {op : Operation} {new : ObjectCall}
    (hcall : w.registry.call? op = some new.toCall) (hsource : w.Has new.object new.source) :
    Sound naming { w with registry := w.registry.perform op, calls := w.calls ++ [new] } := by
  have hledger : Ledger naming ((w.calls ++ [new]).map ObjectCall.toCall) (w.registry.perform op) := by
    have hstep := h.ledger.step op
    rwa [hcall, Option.toList_some, ← List.map_singleton, ← List.map_append] at hstep
  refine { ledger := hledger, existing_lt := h.existing_lt, apart := h.apart, asked := ?_, stays := ?_,
           alike := ?_ }
  · intro c hc
    rcases List.mem_append.1 hc with hc | hc
    · exact h.asked c hc
    · obtain rfl := List.mem_singleton.1 hc
      exact hsource.made
  · intro hopen c hc handle hresult hheld
    rcases List.mem_append.1 hc with hc | hc
    · exact h.stays (Registry.open_of_perform hopen) c hc handle hresult hheld
    · obtain rfl := List.mem_singleton.1 hc
      exact hsource.existing
  · intro c hc d hd handle hresult hresult' hheld
    rcases List.mem_append.1 hc with hc' | hc' <;> rcases List.mem_append.1 hd with hd' | hd'
    · exact h.alike c hc' d hd' handle hresult hresult' hheld
    · obtain rfl := List.mem_singleton.1 hd'
      exact h.object_eq_of_granted hledger hcall hsource hc' hresult hresult' hheld
    · obtain rfl := List.mem_singleton.1 hc'
      have hkey : c.key = d.key :=
        hledger.key_eq_of_number (List.mem_map_of_mem hc) (List.mem_map_of_mem hd) hresult hresult' rfl
      exact (h.object_eq_of_granted hledger hcall hsource hd' hresult' hresult (hkey ▸ hheld)).symm
    · rw [List.mem_singleton.1 hc', List.mem_singleton.1 hd']

/-- Every event keeps a scene sound. -/
theorem step (h : w.Sound naming) (event : Event) : (w.perform event).Sound naming := by
  have heffect := w.perform_effect event
  generalize w.perform event = w' at heffect ⊢
  cases heffect with
  | idle => exact h
  | made hvacant => exact h.make hvacant
  | released hunbound => exact h.release hunbound
  | managed hcall => exact h.manage hcall
  | asked hcall hsource => exact h.ask hcall hsource

/-- Every run keeps a scene sound. -/
theorem run (h : w.Sound naming) (events : List Event) : (w.run events).Sound naming := by
  induction events generalizing w with
  | nil => exact h
  | cons event events ih => exact ih (h.step event)

end Sound

/-! ### One session for each dialect id and source -/

end Scene

end ModelIdl
