import Mathlib
import ModelIdl.Proofs.Session.Runs

/-!
# ModelIdl.Proofs.Session.Lifecycle

The life of a registry up to its closing and behind it. Design points:

* **Answers.** A run is seen from outside by what its operations are answered with (`Registry.answers`).
* **Books balance.** What a registry keeps, together with what factories make in a step, is what the step
  drops and what the registry keeps behind it (`Registry.live_append_births`). Over a whole run, each
  session that was made was dropped or is kept, and the closings say how many were dropped.
* **Closed is closed.** Behind a closing each operation is answered with its refusal, and nothing that can
  be seen of the registry changes (`Registry.closed_for_good`).
-/

namespace ModelIdl

/-! ### Answers -/

/-- What an operation is answered with. -/
inductive Answer where
  | registered (result : Except SessionError Unit)
  | granted (grant : Grant)
  /-- So many sessions were released. -/
  | released (count : Nat)
  /-- Factories that turn ask for nothing. -/
  | silence

/-- The number of sessions that an answer says were released. -/
def Answer.releasedCount : Answer → Nat
  | .released count => count
  | _ => 0

/-- The answer of a registry that is closed. -/
def Operation.refusal : Operation → Answer
  | .register _ _ => .registered (.error .registryClosed)
  | .request _ _ | .requestDefault _ => .granted ⟨.error (.error .registryClosed), none⟩
  | .close => .released 0
  | .turn _ => .silence

namespace Registry

/-- The answer to an operation. -/
def answer (r : Registry) : Operation → Answer
  | .register dialectId factory => .registered ((r.register dialectId factory).map fun _ => ())
  | .request dialectId source => .granted (r.request dialectId source).1
  | .requestDefault source => .granted (r.request defaultDialect source).1
  | .close => .released r.close.1
  | .turn _ => .silence

/-- The answers to the operations of a run, in order. -/
def answers (r : Registry) : List Operation → List Answer
  | [] => []
  | op :: ops => r.answer op :: (r.perform op).answers ops

theorem run_append (r : Registry) (front back : List Operation) :
    r.run (front ++ back) = (r.run front).run back :=
  List.foldl_append

theorem answers_append (r : Registry) (front back : List Operation) :
    r.answers (front ++ back) = r.answers front ++ (r.run front).answers back := by
  induction front generalizing r with
  | nil => rfl
  | cons op front ih => rw [List.cons_append, answers, answers, ih, List.cons_append]; rfl

/-! ### What is made, kept and dropped -/

/-- The sessions that a registry keeps in front of an operation and not behind it. -/
def dropped (r : Registry) (op : Operation) : List (SessionKey × Handle) :=
  r.live.filter fun entry => ((r.perform op).kept? entry.1).isNone

/-- The sessions that the operations of a run drop, in order. -/
def droppings (r : Registry) : List Operation → List (SessionKey × Handle)
  | [] => []
  | op :: ops => r.dropped op ++ (r.perform op).droppings ops

theorem live_request (r : Registry) (dialectId : String) (source : ConnectionSource) :
    (r.request dialectId source).2.live =
      r.live ++ births [⟨dialectId, source, r, (r.request dialectId source).1⟩] := by
  have hstep := r.request_step dialectId source
  generalize r.request dialectId source = answer at hstep ⊢
  cases hstep with
  | closed => exact (List.append_nil _).symm
  | unsupported => exact (List.append_nil _).symm
  | kept => exact (List.append_nil _).symm
  | failed => exact (List.append_nil _).symm
  | created => rfl

/-- Where a closed registry keeps nothing, any closing releases all there is. -/
theorem close_eq {r : Registry} (hempty : r.closed = true → r.live = []) :
    r.close = (r.live.length, { r with live := [], closed := true }) := by
  rw [Registry.close]
  cases hclosed : r.closed with
  | true =>
    obtain ⟨naming, factories, live, created, closed⟩ := r
    obtain rfl : closed = true := hclosed
    obtain rfl : live = [] := hempty rfl
    rfl
  | false => rfl

/-- Behind a closing the registry is closed and empty, and knows the dialect ids that it knew. -/
theorem perform_close {r : Registry} (hempty : r.closed = true → r.live = []) :
    (r.perform .close).closed = true ∧ (r.perform .close).live = [] ∧
      (r.perform .close).dialectIds = r.dialectIds := by
  rw [perform, close_eq hempty]
  exact ⟨rfl, rfl, rfl⟩

/-- An operation other than a closing adds the session that a factory made for it, if one did. -/
theorem live_perform (r : Registry) {op : Operation} (hne : op ≠ .close) :
    (r.perform op).live = r.live ++ births (r.call? op).toList := by
  cases op with
  | request dialectId source => exact r.live_request dialectId source
  | requestDefault source => exact r.live_request defaultDialect source
  | turn answers => exact (List.append_nil _).symm
  | register dialectId factory =>
    show (r.perform (.register dialectId factory)).live = r.live ++ []
    rw [List.append_nil, perform, register]
    cases r.closed <;> rfl
  | close => exact absurd rfl hne

/-- What is kept behind an operation is not dropped. -/
theorem dropped_eq_nil {r : Registry} {op : Operation} {more : List (SessionKey × Handle)}
    (h : (r.perform op).live = r.live ++ more) : r.dropped op = [] := by
  rw [dropped, List.filter_eq_nil_iff]
  intro entry hentry hnone
  rw [kept?, h, Option.isNone_iff_eq_none, List.lookup_eq_none_iff] at hnone
  simpa using hnone entry (List.mem_append_left _ hentry)

theorem dropped_eq_live {r : Registry} {op : Operation} (h : (r.perform op).live = []) :
    r.dropped op = r.live := by
  rw [dropped, List.filter_eq_self]
  intro entry _
  rw [kept?, h]
  rfl

/-- The books balance over an operation, and its answer counts what it drops. -/
theorem live_append_births {r : Registry} (hempty : r.closed = true → r.live = []) (op : Operation) :
    r.live ++ births (r.call? op).toList = r.dropped op ++ (r.perform op).live ∧
      (r.answer op).releasedCount = (r.dropped op).length := by
  by_cases hclose : op = .close
  · subst hclose
    have hnone := (perform_close hempty).2.1
    rw [dropped_eq_live hnone, hnone]
    refine ⟨rfl, ?_⟩
    show r.close.1 = r.live.length
    rw [close_eq hempty]
  · have hadded := r.live_perform hclose
    rw [dropped_eq_nil hadded, hadded, List.nil_append]
    refine ⟨rfl, ?_⟩
    cases op with
    | close => exact absurd rfl hclose
    | _ => rfl

/-- The books balance over a run, and its answers count what it drops. -/
theorem live_append_births_calls {naming : Naming} {cs : List Call} {r : Registry}
    (h : Ledger naming cs r) (ops : List Operation) :
    r.live ++ births (r.calls ops) = r.droppings ops ++ (r.run ops).live ∧
      ((r.answers ops).map Answer.releasedCount).sum = (r.droppings ops).length := by
  induction ops generalizing cs r with
  | nil => exact ⟨List.append_nil _, rfl⟩
  | cons op ops ih =>
    obtain ⟨hbooks, hcount⟩ := live_append_births h.live_of_closed op
    obtain ⟨hbooks', hcount'⟩ := ih (h.step op)
    constructor
    · calc r.live ++ births (r.calls (op :: ops))
          = (r.live ++ births (r.call? op).toList) ++ births ((r.perform op).calls ops) := by
            rw [calls, births_append, List.append_assoc]
        _ = r.dropped op ++ ((r.perform op).live ++ births ((r.perform op).calls ops)) := by
            rw [hbooks, List.append_assoc]
        _ = r.droppings (op :: ops) ++ (r.run (op :: ops)).live := by
            rw [hbooks', ← List.append_assoc]
            rfl
    · rw [answers, List.map_cons, List.sum_cons, hcount, hcount', droppings, List.length_append]

/-! ### Behind a closing -/

/-- A closed registry refuses every operation. -/
theorem answer_of_closed {r : Registry} (h : r.closed = true) (op : Operation) :
    r.answer op = op.refusal := by
  cases op with
  | register dialectId factory => simp [answer, Operation.refusal, register, h, Except.map]
  | request dialectId source => simp [answer, Operation.refusal, request, h]
  | requestDefault source => simp [answer, Operation.refusal, request, h]
  | close => simp [answer, Operation.refusal, Registry.close, h]
  | turn answers => rfl

theorem names_turn (r : Registry) (answers : String → SessionContext → Except Failure Session) :
    (r.turn answers).factories.map Prod.fst = r.factories.map Prod.fst := by
  rw [turn, List.map_map]
  rfl

theorem dialectIds_turn (r : Registry) (answers : String → SessionContext → Except Failure Session) :
    (r.turn answers).dialectIds = r.dialectIds := by
  rw [dialectIds, names_turn, dialectIds]

/-- No operation changes anything about a closed registry. Only its factories may turn by themselves. -/
theorem perform_of_closed {r : Registry} (h : r.closed = true) (op : Operation) :
    (r.perform op).closed = true ∧ (r.perform op).live = r.live ∧
      (r.perform op).dialectIds = r.dialectIds := by
  cases op with
  | register dialectId factory => simp [perform, register, h]
  | request dialectId source => simp [perform, request, h]
  | requestDefault source => simp [perform, request, h]
  | close => simp [perform, Registry.close, h]
  | turn answers => exact ⟨h, rfl, r.dialectIds_turn answers⟩

theorem open_of_perform {r : Registry} {op : Operation} (h : (r.perform op).closed = false) :
    r.closed = false := by
  cases hclosed : r.closed with
  | false => rfl
  | true => rw [← h, (perform_of_closed hclosed op).1]

/-- A closed registry stays as it is over every run, which it refuses operation by operation. -/
theorem run_of_closed {r : Registry} (h : r.closed = true) (ops : List Operation) :
    (r.run ops).closed = true ∧ (r.run ops).live = r.live ∧ (r.run ops).dialectIds = r.dialectIds ∧
      r.answers ops = ops.map Operation.refusal := by
  induction ops generalizing r with
  | nil => exact ⟨h, rfl, rfl, rfl⟩
  | cons op ops ih =>
    obtain ⟨hclosed, hlive, hids⟩ := perform_of_closed h op
    obtain ⟨hclosed', hlive', hids', hanswers⟩ := ih hclosed
    refine ⟨hclosed', hlive'.trans hlive, hids'.trans hids, ?_⟩
    rw [answers, answer_of_closed h, hanswers, List.map_cons]

/-- At every point of every run, the sessions made so far are those dropped and those kept, each of them
once, and the closings have counted those dropped. Behind a closing the registry is closed and keeps
nothing, it knows the same dialect ids, and it answers every operation with its refusal. -/
theorem closed_for_good (naming : Naming) (r : Registry)
    (hstart : r = .empty naming ∨ r = .standard naming) (ops : List Operation) :
    (births (r.calls ops) = r.droppings ops ++ (r.run ops).live ∧
      ((births (r.calls ops)).map (·.2.number)).Nodup ∧
      (births (r.calls ops)).length =
        (r.run ops).size + ((r.answers ops).map Answer.releasedCount).sum) ∧
    ∀ front back, ops = front ++ .close :: back →
      (r.run ops).closed = true ∧ (r.run ops).live = [] ∧ (r.run ops).keys = [] ∧
        (r.run ops).dialectIds = (r.run front).dialectIds ∧
        r.answers ops = r.answers (front ++ [.close]) ++ back.map Operation.refusal := by
  have hledger : Ledger naming [] r := .of_new hstart
  have hlive : r.live = [] := List.sublist_nil.1 hledger.live_sublist_births
  constructor
  · obtain ⟨hbooks, hcount⟩ := live_append_births_calls hledger ops
    rw [hlive, List.nil_append] at hbooks
    refine ⟨hbooks, ?_, ?_⟩
    · have hnumbers := (hledger.run ops).numbers
      rw [List.nil_append] at hnumbers
      rw [hnumbers]
      exact List.nodup_range
    · rw [hbooks, hcount, List.length_append, size, Nat.add_comm]
  · intro front back hsplit
    subst hsplit
    have hempty := (hledger.run front).live_of_closed
    obtain ⟨hclosed, hnone, hids⟩ := perform_close hempty
    obtain ⟨hclosed', hkept, hids', hanswers⟩ := run_of_closed hclosed back
    have hrun : r.run (front ++ .close :: back) = ((r.run front).perform .close).run back :=
      r.run_append front _
    have hlive : (r.run (front ++ .close :: back)).live = [] := by rw [hrun, hkept, hnone]
    refine ⟨hrun ▸ hclosed', hlive, ?_, ?_, ?_⟩
    · rw [keys, hlive, List.map_nil, List.mergeSort_nil]
    · rw [hrun, hids', hids]
    · rw [List.append_cons, answers_append, run_append]
      exact congrArg _ hanswers

/-- A session that was asked for twice is released once. The registry then refuses a dialect that it knows,
one that it does not know, and a new one. -/
theorem closed_for_good_once_released :
    let r := Registry.standard .identity
    let source : ConnectionSource := ⟨0, .url, "sqlite::memory:"⟩
    let front : List Operation := [.request "sqlite" source, .request "sqlite" source]
    let back : List Operation := [.request "sqlite" source, .request "oracle" source,
      .register "oracle" (.binding .generic), .close]
    ((r.answers (front ++ .close :: back)).map Answer.releasedCount).sum = 1 ∧
      (births (r.calls (front ++ .close :: back))).length = 1 ∧
      r.answers (front ++ .close :: back) =
        r.answers (front ++ [.close]) ++ back.map Operation.refusal := by
  intro r source front back
  have hrun := closed_for_good .identity r (.inr rfl) (front ++ .close :: back)
  have hcount : ((r.answers (front ++ .close :: back)).map Answer.releasedCount).sum = 1 := rfl
  obtain ⟨-, hlive, -, -, hanswers⟩ := hrun.2 front back rfl
  refine ⟨hcount, ?_, hanswers⟩
  rw [hrun.1.2.2, hcount, size, hlive]
  rfl

end Registry

end ModelIdl
