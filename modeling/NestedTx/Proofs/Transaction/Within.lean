import NestedTx.Proofs.Transaction.Call

namespace NestedTx

open Server (Change)

def Status.ofLevel : Bool → Status
  | false => .pending
  | true => .committed

namespace Transaction

/-- An open transaction with levels inside those that it had, and with statements that wait. -/
structure Within (base : Transaction) (levels : List Bool) (texts : List String) (tx : Transaction) :
    Prop where
  waits : ∃ carrier, tx.carrier = some carrier ∧ carrier.Holds texts ∧ carrier.done = false
  whole : tx.rolledBack = false
  uncommitted : tx.carrierCommitted = false
  nest : tx.status :: tx.outer = levels.map .ofLevel ++ base.status :: base.outer

theorem perform_execute {tx : Transaction} {carrier : ServerTransaction} {texts : List String}
    (some : tx.carrier = some carrier) (holds : carrier.Holds texts) (sql : String)
    (backend : Backend) : ∃ answer carrier' server', (Call.execute sql).perform tx backend =
        (answer, { tx with carrier := .some carrier' }, { backend with server := server' }) ∧
      Change [] 0 0 backend.server server' ∧
      carrier'.Holds (texts ++ if answer.toBool then [sql] else []) ∧ carrier'.done = carrier.done ∧
      (answer.toBool = true → carrier.done = false) := by
  have same : { tx with carrier := .some carrier } = tx := by rw [← some]
  have waits : carrier.Holds (texts ++ []) := by rwa [List.append_nil]
  have failed (error : TransactionError) :
      (.error error : Except TransactionError Unit).toBool = true → carrier.done = false := by
    intro ok
    cases ok
  cases hb : barred? sql with
  | some error =>
    refine ⟨.error (.query error), carrier, backend.server, ?_, .refl _, waits, rfl, failed _⟩
    simp only [Call.perform, Transaction.execute, hb, same]
    rfl
  | none =>
    rcases holds.execute_cases sql backend with
      ⟨error, server', hx, change⟩ | ⟨count, carrier', server', hx, change, holds', live', live⟩
    · refine ⟨.error (.query (.driver error)), carrier, server', ?_, change, waits, rfl, failed _⟩
      simp only [Call.perform, Transaction.execute, hb, some, hx]
      rfl
    · refine ⟨.ok (), carrier', server', ?_, change, holds', live'.trans live.symm, fun _ => live⟩
      simp only [Call.perform, Transaction.execute, hb, some, hx]
      rfl

namespace Within

variable {base tx : Transaction} {levels : List Bool} {texts : List String}

theorem top {committed : Bool} (h : Within base (committed :: levels) texts tx) :
    tx.status = .ofLevel committed ∧ tx.outer = levels.map .ofLevel ++ base.status :: base.outer := by
  have nest := h.nest
  rwa [List.map_cons, List.cons_append, List.cons.injEq] at nest

theorem enter (h : Within base levels texts tx) (backend : Backend) :
    Call.begin.perform tx backend = (.ok (), tx.push, backend) ∧
      Within base (false :: levels) texts tx.push := by
  refine ⟨by simp [Call.perform, begin, h.whole, h.uncommitted], h.waits, h.whole, h.uncommitted, ?_⟩
  rw [List.map_cons, List.cons_append, ← h.nest]
  rfl

theorem execute (h : Within base levels texts tx) (sql : String) (backend : Backend) :
    ∃ answer tx' server', (Call.execute sql).perform tx backend =
        (answer, tx', { backend with server := server' }) ∧
      Change [] 0 0 backend.server server' ∧
      Within base levels (texts ++ if answer.toBool then [sql] else []) tx' := by
  obtain ⟨carrier, some, holds, live⟩ := h.waits
  obtain ⟨answer, carrier', server', did, change, holds', same, _⟩ :=
    perform_execute some holds sql backend
  exact ⟨answer, _, server', did, change, ⟨carrier', rfl, holds', same.trans live⟩, h.whole,
    h.uncommitted, h.nest⟩

theorem commit (h : Within base (false :: levels) texts tx) (backend : Backend) :
    Call.commit.perform tx backend = (.ok (), tx.setStatus .committed, backend) ∧
      Within base (true :: levels) texts (tx.setStatus .committed) := by
  obtain ⟨status, outer⟩ := h.top
  have pending : tx.status = .pending := status
  refine ⟨by simp [Call.perform, Transaction.commit, h.whole, pending, outer], h.waits, h.whole,
    h.uncommitted, ?_⟩
  rw [List.map_cons, List.cons_append, ← outer]
  rfl

theorem commit_twice (h : Within base (true :: levels) texts tx) (backend : Backend) :
    Call.commit.perform tx backend = (.error .committed, tx, backend) := by
  have committed : tx.status = .committed := h.top.1
  simp [Call.perform, Transaction.commit, h.whole, committed]

theorem pop {committed : Bool} (h : Within base (committed :: levels) texts tx) :
    Within base levels texts tx.pop := by
  obtain ⟨_, outer⟩ := h.top
  constructor
  · simpa using h.waits
  · simpa using h.whole
  · simpa using h.uncommitted
  · rw [← outer]
    cases ho : tx.outer with
    | nil => simp [ho] at outer
    | cons saved rest => simp [Transaction.pop, ho, setStatus]

theorem leave (h : Within base (true :: levels) texts tx) (backend : Backend) :
    (Call.exit .rollback).perform tx backend = (.ok (), tx.pop, backend) ∧
      Within base levels texts tx.pop := by
  have committed : tx.status = .committed := h.top.1
  have late : (tx.rolledBack || decide (tx.status = .committed)) = true := by simp [committed]
  refine ⟨?_, h.pop⟩
  simp only [Call.perform, exit, autoRollback, late, if_true]
  rfl

theorem pass (h : Within base (false :: levels) texts tx) (backend : Backend) :
    (Call.exit .commit).perform tx backend = (.ok (), tx.pop, backend) ∧
      Within base levels texts tx.pop := by
  obtain ⟨status, outer⟩ := h.top
  have pending : tx.status = .pending := status
  refine ⟨?_, h.pop⟩
  simp [Call.perform, exit, autoCommit, h.whole, pending, outer]
  rfl

theorem serverCommit (h : Within base levels texts tx) {backend : Backend}
    (obliging : backend.server.Obliging) : ∃ backend',
      tx.serverCommit backend = (.ok (), { tx with
        carrier := none, carrierCommitted := true, watchdog := tx.watchdog.disarm }, backend') ∧
      Change texts 1 0 backend.server backend'.server := by
  obtain ⟨carrier, some, holds, live⟩ := h.waits
  rcases holds.finish_cases .commit backend with ⟨_, _, _, _, _, _, done⟩ | ⟨server', hf, change, _⟩
  · simp [done obliging] at live
  · have hc : carrier.commit backend = _ := hf
    simp only [Transaction.serverCommit, some, hc, letGo, Backend.release_of_free]
    refine ⟨_, rfl, ?_⟩
    rw [Backend.giveBack_server]
    exact change

theorem serverRollback (h : Within base levels texts tx) {backend : Backend}
    (obliging : backend.server.Obliging) : ∃ backend',
      tx.serverRollback backend = (.ok (), { tx with
        carrier := none, watchdog := tx.watchdog.disarm }, backend') ∧
      Change [] 0 1 backend.server backend'.server := by
  obtain ⟨carrier, some, holds, live⟩ := h.waits
  rcases holds.finish_cases .rollback backend with ⟨_, _, _, _, _, _, done⟩ | ⟨server', hf, change, _⟩
  · simp [done obliging] at live
  · have hr : carrier.rollback backend = _ := hf
    simp only [Transaction.serverRollback, some, hr, letGo, Backend.release_of_free]
    refine ⟨_, rfl, ?_⟩
    rw [Backend.giveBack_server]
    exact change

theorem leave_pending (h : Within base (false :: levels) texts tx) {backend : Backend}
    (obliging : backend.server.Obliging) :
    backend.server.counters.rollbacks <
      ((Call.exit .rollback).perform tx backend).2.2.server.counters.rollbacks := by
  have pending : tx.status = .pending := h.top.1
  have early : (tx.rolledBack || decide (tx.status = .committed)) = false := by
    simp [h.whole, pending]
  obtain ⟨backend', hr, change⟩ := h.serverRollback obliging
  simp only [Call.perform, exit, autoRollback, early, Bool.false_eq_true, if_false, hr]
  rw [change.rollbacks]
  exact Nat.lt_succ_self _

theorem commit_root (h : Within base [] texts tx) (root : base.outer = [])
    (undecided : base.Undecided) {backend : Backend} (obliging : backend.server.Obliging) :
    (Call.commit.perform tx backend).1 = .ok () ∧
      (Call.commit.perform tx backend).2.2.server.journal = backend.server.journal ++ texts := by
  have nest := h.nest
  rw [List.map_nil, List.nil_append, List.cons.injEq, root] at nest
  obtain ⟨status, outer⟩ := nest
  have committed := undecided.committed
  have rolledBack := undecided.rolledBack
  rw [← status] at committed rolledBack
  obtain ⟨backend', hc, change⟩ := h.serverCommit obliging
  simp only [Call.perform, Transaction.commit, h.whole, Bool.false_eq_true, if_false, committed,
    rolledBack, outer, List.isEmpty_nil, if_true, hc]
  exact ⟨trivial, change.journal⟩

end Within

end Transaction

end NestedTx
