import NestedTx.Proofs.Transaction.Within

namespace NestedTx

open Server (Change)

namespace Transaction

def Entered (texts : List String) (depth : Nat) (tx : Transaction) : Prop :=
  ∃ base : Transaction, base.status = .pending ∧ base.outer = [] ∧
    Within base (List.replicate depth false) texts tx

structure Undone (depth : Nat) (tx : Transaction) : Prop where
  rolledBack : tx.rolledBack = true
  spent : tx.carrier = none
  levels : tx.outer.length = depth

variable {texts : List String} {depth : Nat} {tx : Transaction} {backend : Backend}

theorem length_pop (tx : Transaction) : tx.pop.outer.length = tx.outer.length - 1 := by
  unfold pop
  cases h : tx.outer <;> simp [h, setStatus]

namespace Entered

theorem root (id : String) {carrier : ServerTransaction} (settings : TransactionSettings)
    (holds : carrier.Holds []) (live : carrier.done = false) :
    (Transaction.root id carrier settings).Entered [] 0 :=
  ⟨Transaction.root id carrier settings, rfl, rfl, ⟨carrier, rfl, holds, live⟩, rfl, rfl, rfl⟩

theorem pending (h : tx.Entered texts depth) : tx.status = .pending := by
  obtain ⟨base, status, _, within⟩ := h
  cases depth with
  | zero =>
    have nest := within.nest
    rw [List.replicate_zero, List.map_nil, List.nil_append, List.cons.injEq] at nest
    rw [nest.1, status]
  | succ depth => exact within.top.1

theorem length_outer (h : tx.Entered texts depth) : tx.outer.length = depth := by
  obtain ⟨base, _, outer, within⟩ := h
  have lengths := congrArg List.length within.nest
  simp only [List.length_cons, List.length_append, List.length_map, List.length_replicate, outer,
    List.length_nil] at lengths
  omega

theorem enter (h : tx.Entered texts depth) (backend : Backend) :
    Call.begin.perform tx backend = (.ok (), tx.push, backend) ∧
      tx.push.Entered texts (depth + 1) := by
  obtain ⟨base, status, outer, within⟩ := h
  obtain ⟨did, within'⟩ := within.enter backend
  exact ⟨did, base, status, outer, within'⟩

theorem pass (h : tx.Entered texts (depth + 1)) (backend : Backend) :
    (Call.exit .commit).perform tx backend = (.ok (), tx.pop, backend) ∧
      tx.pop.Entered texts depth := by
  obtain ⟨base, status, outer, within⟩ := h
  obtain ⟨did, within'⟩ := within.pass backend
  exact ⟨did, base, status, outer, within'⟩

theorem execute (h : tx.Entered texts depth) {sql : String} (free : barred? sql = none) {count : Nat}
    (counts : Server.statementCount sql = .ok count) (backend : Backend) :
    ∃ tx' server', tx.execute sql backend = (.ok count, tx', { backend with server := server' }) ∧
      Change [] 0 0 backend.server server' ∧ tx'.Entered (texts ++ [sql]) depth := by
  obtain ⟨base, status, outer, within⟩ := h
  obtain ⟨carrier, some, holds, live⟩ := within.waits
  have answer : (carrier.execute sql backend).1 = .ok count := by
    simp [ServerTransaction.execute, live, Connection.execute, Link.execute_answer, counts]
  rcases holds.execute_cases sql backend with
    ⟨error, server', hx, _⟩ | ⟨count', carrier', server', hx, change, holds', live', _⟩
  · rw [hx] at answer
    cases answer
  · rw [hx] at answer
    cases answer
    refine ⟨{ tx with carrier := .some carrier' }, server', ?_, change, base, status, outer, ?_⟩
    · simp only [Transaction.execute, free, some, hx]
      rfl
    · exact ⟨⟨carrier', rfl, holds', live'⟩, within.whole, within.uncommitted, within.nest⟩

theorem rollback (h : tx.Entered texts depth) (obliging : backend.server.Obliging) :
    ∃ tx' backend', tx.rollback backend = (.ok (), tx', backend') ∧ tx'.Undone depth ∧
      Change [] 0 1 backend.server backend'.server := by
  have pending := h.pending
  have levels := h.length_outer
  obtain ⟨base, _, _, within⟩ := h
  obtain ⟨backend', did, change⟩ := within.serverRollback obliging
  have uncommitted : tx.status ≠ .committed := by simp [pending]
  simp only [Transaction.rollback, within.whole, Bool.false_eq_true, if_false, uncommitted, did]
  exact ⟨_, _, rfl, ⟨rfl, rfl, levels⟩, change⟩

theorem undo (h : tx.Entered texts depth) (obliging : backend.server.Obliging) :
    ∃ tx' backend', (Call.exit .rollback).perform tx backend = (.ok (), tx', backend') ∧
      tx'.Undone (depth - 1) ∧ Change [] 0 1 backend.server backend'.server := by
  have pending := h.pending
  have levels := h.length_outer
  obtain ⟨base, _, _, within⟩ := h
  obtain ⟨backend', did, change⟩ := within.serverRollback obliging
  have undecided : (tx.rolledBack || decide (tx.status = .committed)) = false := by
    simp [within.whole, pending]
  simp only [Call.perform, exit, autoRollback, undecided, Bool.false_eq_true, if_false, did]
  refine ⟨_, _, rfl, ⟨?_, ?_, ?_⟩, change⟩
  · rw [pop_rolledBack]
  · rw [pop_carrier]
    rfl
  · rw [length_pop, ← levels]
    rfl

theorem commit (h : tx.Entered texts 0) (obliging : backend.server.Obliging) :
    ∃ tx' backend', (Call.exit .commit).perform tx backend = (.ok (), tx', backend') ∧
      tx'.carrier = none ∧ tx'.outer.length = 0 ∧ Change texts 1 0 backend.server backend'.server := by
  have pending := h.pending
  have root : tx.outer = [] := List.eq_nil_of_length_eq_zero h.length_outer
  obtain ⟨base, _, _, within⟩ := h
  obtain ⟨backend', did, change⟩ := within.serverCommit obliging
  have undecided : (tx.rolledBack || decide (tx.status = .rolledBack) ||
      decide (tx.status = .committed)) = false := by
    simp [within.whole, pending]
  simp only [Call.perform, exit, autoCommit, undecided, Bool.false_eq_true, if_false, root,
    List.isEmpty_nil, Bool.not_true, did]
  refine ⟨_, _, rfl, ?_, ?_, change⟩
  · rw [pop_carrier]
    rfl
  · rw [length_pop]
    simp [setStatus]

end Entered

namespace Undone

theorem late (h : tx.Undone depth) (backend : Backend) :
    tx.begin = .error .nestedRolledBack ∧
      tx.rollback backend = (.error .nestedRolledBack, tx, backend) := by
  constructor
  · simp [begin, h.rolledBack]
  · simp [Transaction.rollback, h.rolledBack]

theorem leave (h : tx.Undone depth) (action : ExitAction) (backend : Backend) :
    (Call.exit action).perform tx backend = (.ok (), tx.pop, backend) ∧ tx.pop.Undone (depth - 1) := by
  refine ⟨?_, ⟨?_, ?_, ?_⟩⟩
  · cases action with
    | commit =>
      simp only [Call.perform, exit, autoCommit, h.rolledBack]
      rfl
    | rollback =>
      simp only [Call.perform, exit, autoRollback, h.rolledBack]
      rfl
  · rw [pop_rolledBack, h.rolledBack]
  · rw [pop_carrier, h.spent]
  · rw [length_pop, h.levels]

end Undone

end Transaction

end NestedTx
