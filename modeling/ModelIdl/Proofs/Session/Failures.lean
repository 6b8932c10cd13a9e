import ModelIdl.Proofs.Session.Lifecycle

/-!
# ModelIdl.Proofs.Session.Failures

Calls that fail. Each call holds the lock of the registry while it works, and one that breaks down leaves
the lock *poisoned*. Design points:

* **A poisoned lock is entered all the same.** Whoever takes it is warned, and passes the warning over
  (`Shared.enter`). That is safe because a call that breaks down has changed nothing.
* **A call that fails changes nothing** but the lock (`Registry.perform_of_fails`), and the lock is never
  seen in an answer (`Shared.run_congr`). So a run goes on as if the call had not been made.
* **Factories are the last resort.** One is called only for an id that it is registered for, while the
  registry is open and keeps no session under the key.
-/

namespace ModelIdl

/-! ### Answers that fail -/

namespace Answer

/-- Was the operation refused, or did its factory give no session? -/
def fails : Answer → Bool
  | .registered (.error _) | .granted ⟨.error _, _⟩ => true
  | _ => false

/-- Did a factory give no answer at all? -/
def brokeDown : Answer → Bool
  | .granted ⟨.error .brokeDown, _⟩ => true
  | _ => false

/-- The factory that was called, if one was. -/
def ran? : Answer → Option Factory
  | .granted grant => grant.ran
  | _ => none

end Answer

/-- A registry behind its lock. -/
structure Shared where
  registry : Registry
  /-- Has a call broken down while it held the lock? -/
  poisoned : Bool := false

namespace Shared

/-- What the lock gives to one who takes it: the registry, as an error if the lock is poisoned. -/
def lock (s : Shared) : Except Registry Registry :=
  if s.poisoned then .error s.registry else .ok s.registry

/-- The registry that a call works on. -/
def enter (s : Shared) : Registry :=
  match s.lock with
  | .ok r => r
  | .error r => r

/-- The answer to an operation. -/
def answer (s : Shared) (op : Operation) : Answer :=
  s.enter.answer op

/-- The registry and its lock behind an operation. -/
def perform (s : Shared) (op : Operation) : Shared where
  registry := s.enter.perform op
  poisoned := s.poisoned || (s.answer op).brokeDown

/-- The registry and its lock behind a run. -/
def run (s : Shared) (ops : List Operation) : Shared :=
  ops.foldl perform s

/-- The answers to the operations of a run, in order. -/
def answers (s : Shared) : List Operation → List Answer
  | [] => []
  | op :: ops => s.answer op :: (s.perform op).answers ops

/-- The operations of a run that do not fail, in order. -/
def successes (s : Shared) : List Operation → List Operation
  | [] => []
  | op :: ops =>
    if (s.answer op).fails then (s.perform op).successes ops
    else op :: (s.perform op).successes ops

@[simp] theorem enter_eq (s : Shared) : s.enter = s.registry := by
  unfold enter lock
  cases s.poisoned <;> rfl

/-- What the lock has been through does not show in any answer. -/
theorem run_congr {s t : Shared} (h : s.registry = t.registry) (ops : List Operation) :
    (s.run ops).registry = (t.run ops).registry ∧ s.answers ops = t.answers ops ∧
      s.successes ops = t.successes ops := by
  induction ops generalizing s t with
  | nil => exact ⟨h, rfl, rfl⟩
  | cons op ops ih =>
    have hanswer : s.answer op = t.answer op := by rw [answer, answer, enter_eq, enter_eq, h]
    have hperform : (s.perform op).registry = (t.perform op).registry := by
      rw [perform, perform, enter_eq, enter_eq, h]
    obtain ⟨hrun, hanswers, hsuccesses⟩ := ih hperform
    refine ⟨hrun, ?_, ?_⟩
    · rw [answers, answers, hanswer, hanswers]
    · rw [successes, successes, hanswer, hsuccesses]

end Shared

/-! ### What a failed call leaves behind -/

namespace Registry

/-- A request that is not granted leaves the registry as it was. -/
theorem request_of_error {r : Registry} {dialectId : String} {source : ConnectionSource} {e : Failure}
    (h : (r.request dialectId source).1.result = .error e) : (r.request dialectId source).2 = r := by
  have hstep := r.request_step dialectId source
  generalize r.request dialectId source = answer at h hstep
  cases hstep with
  | closed => rfl
  | unsupported => rfl
  | kept => rfl
  | failed => rfl
  | created => cases h

/-- An operation that fails leaves the registry as it was. -/
theorem perform_of_fails {r : Registry} {op : Operation} (h : (r.answer op).fails = true) :
    r.perform op = r := by
  have hrequest : ∀ {dialectId source}, (Answer.granted (r.request dialectId source).1).fails = true →
      (r.request dialectId source).2 = r := by
    intro dialectId source hfails
    cases hresult : (r.request dialectId source).1.result with
    | error e => exact request_of_error hresult
    | ok handle =>
      rw [show (r.request dialectId source).1 = ⟨.ok handle, (r.request dialectId source).1.ran⟩ by
        rw [← hresult]] at hfails
      cases hfails
  cases op with
  | request dialectId source => exact hrequest h
  | requestDefault source => exact hrequest h
  | register dialectId factory =>
    rw [answer, register] at h
    rw [perform, register]
    cases hclosed : r.closed with
    | true => rfl
    | false =>
      rw [hclosed] at h
      cases h
  | close => cases h
  | turn answers => cases h

/-- A factory is called only for an id that it is registered for, while the registry is open and keeps no
session under the key. -/
theorem ran?_answer {r : Registry} {op : Operation} {factory : Factory}
    (h : (r.answer op).ran? = some factory) :
    ∃ dialectId source, op.asked? = some (dialectId, source) ∧ r.closed = false ∧
      r.factories.lookup dialectId = some factory ∧
      r.kept? (SessionKey.of dialectId source) = none := by
  have hrequest : ∀ {dialectId source}, (r.request dialectId source).1.ran = some factory →
      r.closed = false ∧ r.factories.lookup dialectId = some factory ∧
        r.kept? (SessionKey.of dialectId source) = none := by
    intro dialectId source hran
    have hstep := r.request_step dialectId source
    generalize r.request dialectId source = answer at hran hstep
    cases hstep with
    | closed => cases hran
    | unsupported => cases hran
    | kept => cases hran
    | failed hopen hfactory hkept _ =>
      cases hran
      exact ⟨hopen, hfactory, hkept⟩
    | created hopen hfactory hkept _ =>
      cases hran
      exact ⟨hopen, hfactory, hkept⟩
  cases op with
  | request dialectId source => exact ⟨dialectId, source, rfl, hrequest h⟩
  | requestDefault source => exact ⟨defaultDialect, source, rfl, hrequest h⟩
  | register dialectId factory => cases h
  | close => cases h
  | turn answers => cases h

end Registry

namespace Shared

/-- A call that fails may as well not have been made: it leaves the registry as it was, sessions, factories
and all, and whatever is done behind it is answered as if it had been done instead. So all failed calls of
a run may be left out of it, whatever locks they poisoned. And a factory is called only for an id that it is
registered for, while the registry is open and keeps no session under the key. -/
theorem failed_call_forgotten (s : Shared) :
    (∀ op, (s.answer op).fails = true →
      (s.perform op).registry = s.registry ∧
        ∀ back, s.answers (op :: back) = s.answer op :: s.answers back ∧
          (s.run (op :: back)).registry = (s.run back).registry) ∧
    (∀ ops, s.answers (s.successes ops) = (s.answers ops).filter (fun a => !a.fails) ∧
      (s.run (s.successes ops)).registry = (s.run ops).registry) ∧
    ∀ op factory, (s.answer op).ran? = some factory →
      ∃ dialectId source, op.asked? = some (dialectId, source) ∧ s.registry.closed = false ∧
        s.registry.factories.lookup dialectId = some factory ∧
        s.registry.kept? (SessionKey.of dialectId source) = none := by
  have hforgotten : ∀ {s : Shared} {op}, (s.answer op).fails = true →
      (s.perform op).registry = s.registry := by
    intro s op h
    rw [answer, enter_eq] at h
    rw [perform, enter_eq]
    exact Registry.perform_of_fails h
  refine ⟨fun op h => ⟨hforgotten h, fun back => ?_⟩, fun ops => ?_, fun op factory h => ?_⟩
  · obtain ⟨hrun, hanswers, -⟩ := run_congr (hforgotten h) back
    exact ⟨congrArg (s.answer op :: ·) hanswers, hrun⟩
  · induction ops generalizing s with
    | nil => exact ⟨rfl, rfl⟩
    | cons op ops ih =>
      obtain ⟨hanswers, hrun⟩ := ih (s.perform op)
      rw [successes, answers, List.filter_cons]
      cases hfails : (s.answer op).fails with
      | true =>
        obtain ⟨hrun', hanswers', -⟩ :=
          run_congr (hforgotten hfails) ((s.perform op).successes ops)
        exact ⟨hanswers'.symm.trans hanswers, hrun'.symm.trans hrun⟩
      | false => exact ⟨congrArg (s.answer op :: ·) hanswers, hrun⟩
  · rw [answer, enter_eq] at h
    exact Registry.ran?_answer h

/-- A factory that breaks down poisons the lock, and the next request is granted all the same. -/
theorem failed_call_forgotten_poisoned :
    let s : Shared := ⟨{ Registry.standard .identity with
      factories := [("broken", .custom fun _ => .error .brokeDown), ("sqlite", .binding .sqlite)] }, false⟩
    let source : ConnectionSource := ⟨0, .url, "sqlite::memory:"⟩
    (s.perform (.request "broken" source)).poisoned = true ∧
      s.answers [.request "broken" source, .request "sqlite" source] =
        s.answer (.request "broken" source) :: s.answers [.request "sqlite" source] ∧
      s.successes [.request "broken" source, .request "sqlite" source] = [.request "sqlite" source] := by
  intro s source
  exact ⟨rfl, (((failed_call_forgotten s).1 _ rfl).2 _).1, rfl⟩

end Shared

end ModelIdl
