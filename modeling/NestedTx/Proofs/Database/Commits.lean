import NestedTx.Proofs.Database.Handles
import NestedTx.Proofs.Database.Journal

namespace NestedTx

open History

namespace Transaction

variable {tx tx' : Transaction} {backend backend' : Backend}

theorem Attempt.carrierCommitted_rollback {result : Except DriverError Unit}
    (attempt : Attempt .rollback tx backend result tx' backend') :
    tx'.carrierCommitted = tx.carrierCommitted := by
  cases attempt <;> rfl

theorem Step.of_carrierCommitted {call : Call} {answer : Except TransactionError Unit}
    (step : Step tx backend call answer tx' backend') (committed : tx'.carrierCommitted = true) :
    tx.carrierCommitted = true ∨
      (call = .commit ∨ call = .exit .commit) ∧ tx.outer = [] ∧ tx.rolledBack = false := by
  cases step with
  | lateForAll | lateForRoot | lateForLevel | lateForCommit | entered | noted | barred | closed
  | executed | fetched => exact .inl committed
  | left => exact .inl (by rwa [pop_carrierCommitted] at committed)
  | committing undecided root => exact .inr ⟨.inl rfl, root, undecided.whole⟩
  | rollingBack _ _ attempt => exact .inl (attempt.carrierCommitted_rollback ▸ committed)
  | @leaving action _ _ _ whole _ root attempt =>
    rw [pop_carrierCommitted] at committed
    cases action with
    | commit => exact .inr ⟨.inr rfl, (root rfl).2, whole⟩
    | rollback => exact .inl (attempt.carrierCommitted_rollback ▸ committed)

end Transaction

namespace Action

def commits : Action → Bool
  | call _ .commit _ => true
  | call _ (.exit .commit) _ => true
  | _ => false

theorem call_of_event? {action : Action} {result : Except DatabaseError Unit}
    {before after : Database} {ref : Nat}
    (told : action.event? result before after = some (.marked (.root ref) .committed)) :
    ∃ call params, action = .call ref call params ∧
      call.mark? result before.backend.server.counters after.backend.server.counters =
        some .committed := by
  have lost {holder : Holder} (told : loss? holder before after =
      some (.marked (.root ref) .committed)) : False := by
    unfold loss? at told
    split at told <;> cases told
  unfold event? at told
  split at told
  · obtain ⟨mark, marked, same⟩ := Option.map_eq_some_iff.mp told
    cases same
    exact ⟨_, _, rfl, marked⟩
  · exact (lost told).elim
  · exact (lost told).elim
  all_goals cases told

end Action

namespace Run

variable {run : Run} {before : List String} {ref : Nat}

theorem history_step (run : Run) (action : Action) : (run.step action).history =
    (action.event? (action.perform run.db).1 run.db (action.perform run.db).2).toList ++
      run.history := rfl

def Commits (run : Run) (ref : Nat) (action : Action) : Prop :=
  ∃ call params, action = .call ref call params ∧ (call = .commit ∨ call = .exit .commit) ∧
    (run.db.transaction ref).outer = [] ∧ (run.db.transaction ref).rolledBack = false

namespace Consistent

theorem of_committed (h : run.Consistent before) {action : Action}
    (mem : .marked (.root ref) .committed ∈ (run.step action).history) :
    .marked (.root ref) .committed ∈ run.history ∨ run.Commits ref action := by
  have marks := mem
  have next := h.effect (h.backed.effect action)
  rw [history_step] at mem
  rcases List.mem_append.mp mem with new | old
  · obtain ⟨call, params, rfl, marked⟩ := Action.call_of_event? (Option.mem_toList.mp new)
    by_cases held : run.db.isHeld ref = true
    · obtain ⟨⟨tx, handles⟩, known, _⟩ := Database.exists_of_isHeld held
      obtain ⟨db', did, known', _⟩ := Database.perform_known known params
        (rfl : call.perform tx run.db.backend = (_, _, _))
      have after : (run.step (.call ref call params)).db = db' := by
        rw [db_step, Database.perform_of_held held, did]
      rw [← after] at known'
      have committed := ((next.recorded_root known').committed _ _ rfl).mpr marks
      rcases (tx.perform_step run.db.backend call).of_carrierCommitted committed with
        before | ⟨which, root, whole⟩
      · exact .inl (((h.recorded_root known).committed _ _ rfl).mp before)
      · refine .inr ⟨call, params, rfl, which, ?_⟩
        rw [Database.transaction_of_known known]
        exact ⟨root, whole⟩
    · have refused : ((Action.call ref call params).perform run.db).1 = .error .noTransaction := by
        simp only [Action.perform, held]
        rfl
      rw [refused, Transaction.Call.mark?_error] at marked
      cases marked
  · exact .inl old

theorem of_committed_quiet (h : run.Consistent before) {actions : List Action}
    (quiet : ∀ action ∈ actions, action.commits = false)
    (mem : .marked (.root ref) .committed ∈ (run.steps actions).history) :
    .marked (.root ref) .committed ∈ run.history := by
  induction actions generalizing run with
  | nil => exact mem
  | cons action actions ih =>
    have first := ih (h.effect (h.backed.effect action))
      (fun other later => quiet other (List.mem_cons_of_mem _ later)) mem
    rcases h.of_committed first with old | ⟨call, params, rfl, rfl | rfl, _⟩
    · exact old
    · cases quiet _ List.mem_cons_self
    · cases quiet _ List.mem_cons_self

end Consistent

end Run

end NestedTx
