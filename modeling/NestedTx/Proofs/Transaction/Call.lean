import NestedTx.Proofs.Pool

/-!
The calls that users make on a transaction. `Step` lists what each call can do, with the condition
under which it does it; whatever holds of a transaction through all calls is read off this list.
-/

namespace NestedTx

open Server (Change)

namespace Transaction

inductive Call
  | begin
  | commit
  | rollback
  | exit (action : ExitAction)
  | execute (sql : String)
  | fetch (sql : String)
deriving DecidableEq, Repr

def Call.perform (call : Call) (tx : Transaction) (backend : Backend) :
    Except TransactionError Unit × Transaction × Backend :=
  match call with
  | .begin =>
    match tx.begin with
    | .error error => (.error error, tx, backend)
    | .ok tx => (.ok (), tx, backend)
  | .commit => tx.commit backend
  | .rollback => tx.rollback backend
  | .exit action =>
    match tx.exit action backend with
    | (result, tx, backend) => (result.mapError FailedExit.error, tx, backend)
  | .execute sql =>
    match tx.execute sql backend with
    | (result, tx, backend) => ((result.map fun _ => ()).mapError .query, tx, backend)
  | .fetch sql =>
    match tx.fetch sql backend with
    | (result, backend) => ((result.map fun _ => ()).mapError .query, tx, backend)

def after (tx : Transaction) : List (Call × Backend) → Transaction
  | [] => tx
  | (call, backend) :: calls => (call.perform tx backend).2.1.after calls

def settle (action : ExitAction) (tx : Transaction) : Transaction :=
  match action with
  | .commit => { tx with carrierCommitted := true }.setStatus .committed
  | .rollback => { tx.setStatus .rolledBack with rolledBack := true }

@[simp] theorem setStatus_carrier (status : Status) (tx : Transaction) :
    (tx.setStatus status).carrier = tx.carrier := rfl

@[simp] theorem push_carrier (tx : Transaction) : tx.push.carrier = tx.carrier := rfl

@[simp] theorem pop_carrier (tx : Transaction) : tx.pop.carrier = tx.carrier := by
  unfold pop
  split <;> rfl

@[simp] theorem pop_carrierCommitted (tx : Transaction) :
    tx.pop.carrierCommitted = tx.carrierCommitted := by
  unfold pop
  split <;> rfl

@[simp] theorem pop_rolledBack (tx : Transaction) : tx.pop.rolledBack = tx.rolledBack := by
  unfold pop
  split <;> rfl

@[simp] theorem settle_carrier (action : ExitAction) (tx : Transaction) :
    (tx.settle action).carrier = tx.carrier := by
  cases action <;> rfl

def refusal (action : ExitAction) (cause : DriverError) : TransactionError :=
  match action with
  | .commit => .commitFailed cause
  | .rollback => .rollbackFailed cause

inductive Attempt (action : ExitAction) (tx : Transaction) (backend : Backend) :
    Except DriverError Unit → Transaction → Backend → Prop
  | missing (none : tx.carrier = none) :
    Attempt action tx backend (.error .closed) (tx.setStatus .errored) backend
  | refused {carrier carrier' : ServerTransaction} {error : DriverError} {backend' : Backend}
    (some : tx.carrier = some carrier)
    (finish : carrier.finish action backend = (.error error, carrier', backend')) :
    Attempt action tx backend (.error error)
      ({ tx with carrier := .some carrier' }.setStatus .errored) backend'
  | done {carrier carrier' : ServerTransaction} {backend' : Backend}
    (some : tx.carrier = some carrier)
    (finish : carrier.finish action backend = (.ok (), carrier', backend')) :
    Attempt action tx backend (.ok ())
      ({ tx with carrier := none, watchdog := tx.watchdog.disarm }.settle action)
      (backend'.release carrier'.connection)

structure Undecided (tx : Transaction) : Prop where
  whole : tx.rolledBack = false
  committed : tx.status ≠ .committed
  rolledBack : tx.status ≠ .rolledBack

inductive Step (tx : Transaction) (backend : Backend) :
    Call → Except TransactionError Unit → Transaction → Backend → Prop
  | lateForAll {call : Call} (late : tx.rolledBack = true)
    (asks : call = .begin ∨ call = .commit ∨ call = .rollback) :
    Step tx backend call (.error .nestedRolledBack) tx backend
  | lateForRoot (whole : tx.rolledBack = false) (late : tx.carrierCommitted = true) :
    Step tx backend .begin (.error .committed) tx backend
  | lateForLevel {call : Call} {error : TransactionError} (whole : tx.rolledBack = false)
    (late : tx.status = .committed)
    (asks : call = .commit ∧ error = .committed ∨ call = .rollback ∧ error = .cannotRollBack) :
    Step tx backend call (.error error) tx backend
  | lateForCommit (whole : tx.rolledBack = false) (late : tx.status = .rolledBack) :
    Step tx backend .commit (.error .rolledBack) tx backend
  | entered (whole : tx.rolledBack = false) (uncommitted : tx.carrierCommitted = false) :
    Step tx backend .begin (.ok ()) tx.push backend
  | noted (undecided : tx.Undecided) (nested : tx.outer ≠ []) :
    Step tx backend .commit (.ok ()) (tx.setStatus .committed) backend
  | left {action : ExitAction}
    (decided : tx.rolledBack = true ∨ tx.status = .committed ∨
      action = .commit ∧ (tx.status = .rolledBack ∨ tx.outer ≠ [])) :
    Step tx backend (.exit action) (.ok ()) tx.pop backend
  | committing {result : Except DriverError Unit} {tx' : Transaction} {backend' : Backend}
    (undecided : tx.Undecided) (root : tx.outer = [])
    (attempt : Attempt .commit tx backend result tx' backend') :
    Step tx backend .commit (result.mapError (refusal .commit)) tx' backend'
  | rollingBack {result : Except DriverError Unit} {tx' : Transaction} {backend' : Backend}
    (whole : tx.rolledBack = false) (uncommitted : tx.status ≠ .committed)
    (attempt : Attempt .rollback tx backend result tx' backend') :
    Step tx backend .rollback (result.mapError (refusal .rollback)) tx' backend'
  | leaving {action : ExitAction} {result : Except DriverError Unit} {tx' : Transaction}
    {backend' : Backend} (whole : tx.rolledBack = false) (uncommitted : tx.status ≠ .committed)
    (root : action = .commit → tx.status ≠ .rolledBack ∧ tx.outer = [])
    (attempt : Attempt action tx backend result tx' backend') :
    Step tx backend (.exit action) (result.mapError (refusal action)) tx'.pop backend'
  | barred {call : Call} {sql : String} {error : QueryError} (bar : barred? sql = some error)
    (asks : call = .execute sql ∨ call = .fetch sql) :
    Step tx backend call (.error (.query error)) tx backend
  | closed {call : Call} {sql : String} (none : tx.carrier = none)
    (asks : call = .execute sql ∨ call = .fetch sql) :
    Step tx backend call (.error (.query (.driver .closed))) tx backend
  | executed {carrier carrier' : ServerTransaction} {sql : String} {result : Except DriverError Nat}
    {backend' : Backend} (some : tx.carrier = some carrier) (free : barred? sql = none)
    (run : carrier.execute sql backend = (result, carrier', backend')) :
    Step tx backend (.execute sql) ((result.map fun _ => ()).mapError fun e => .query (.driver e))
      { tx with carrier := .some carrier' } backend'
  | fetched {carrier : ServerTransaction} {sql : String} {result : Except DriverError (List Row)}
    {backend' : Backend} (some : tx.carrier = some carrier) (free : barred? sql = none)
    (run : carrier.fetch sql backend = (result, backend')) :
    Step tx backend (.fetch sql) ((result.map fun _ => ()).mapError fun e => .query (.driver e))
      tx backend'

variable (tx : Transaction) (backend : Backend)

theorem begin_step :
    Step tx backend .begin (Call.begin.perform tx backend).1 (Call.begin.perform tx backend).2.1
      (Call.begin.perform tx backend).2.2 := by
  simp only [Call.perform, begin]
  cases hr : tx.rolledBack with
  | true => exact .lateForAll hr (.inl rfl)
  | false =>
    cases hc : tx.carrierCommitted with
    | true => exact .lateForRoot hr hc
    | false => exact .entered hr hc

theorem serverCommit_attempt :
    (∃ error tx' backend', tx.serverCommit backend = (.error error, tx', backend') ∧
      Attempt .commit tx backend (.error error) (tx'.setStatus .errored) backend') ∨
    ∃ tx' backend', tx.serverCommit backend = (.ok (), tx', backend') ∧
      Attempt .commit tx backend (.ok ()) (tx'.setStatus .committed) backend' := by
  cases hs : tx.carrier with
  | none => exact .inl ⟨_, _, _, by simp [serverCommit, hs], .missing hs⟩
  | some carrier =>
    rcases hf : carrier.commit backend with ⟨_ | _, carrier', backend'⟩
    · exact .inl ⟨_, _, _, by simp [serverCommit, hs, hf], .refused hs hf⟩
    · exact .inr ⟨_, _, by simp [serverCommit, hs, hf, letGo], .done hs hf⟩

theorem serverRollback_attempt :
    (∃ error tx' backend', tx.serverRollback backend = (.error error, tx', backend') ∧
      Attempt .rollback tx backend (.error error) (tx'.setStatus .errored) backend') ∨
    ∃ tx' backend', tx.serverRollback backend = (.ok (), tx', backend') ∧
      Attempt .rollback tx backend (.ok ())
        { tx'.setStatus .rolledBack with rolledBack := true } backend' := by
  cases hs : tx.carrier with
  | none => exact .inl ⟨_, _, _, by simp [serverRollback, hs], .missing hs⟩
  | some carrier =>
    rcases hf : carrier.rollback backend with ⟨_ | _, carrier', backend'⟩
    · exact .inl ⟨_, _, _, by simp [serverRollback, hs, hf], .refused hs hf⟩
    · exact .inr ⟨_, _, by simp [serverRollback, hs, hf, letGo], .done hs hf⟩

theorem commit_step :
    Step tx backend .commit (Call.commit.perform tx backend).1
      (Call.commit.perform tx backend).2.1 (Call.commit.perform tx backend).2.2 := by
  simp only [Call.perform, commit]
  split
  · exact .lateForAll ‹_› (.inr (.inl rfl))
  rename_i hr
  rw [Bool.not_eq_true] at hr
  split
  · exact .lateForLevel hr ‹_› (.inl ⟨rfl, rfl⟩)
  rename_i hc
  split
  · exact .lateForCommit hr ‹_›
  rename_i hb
  split
  · rename_i ho
    rcases tx.serverCommit_attempt backend with ⟨error, tx', backend', he, ha⟩ | ⟨tx', backend', he, ha⟩
    · rw [he]; exact .committing ⟨hr, hc, hb⟩ (List.isEmpty_iff.mp ho) ha
    · rw [he]; exact .committing ⟨hr, hc, hb⟩ (List.isEmpty_iff.mp ho) ha
  · rename_i ho
    exact .noted ⟨hr, hc, hb⟩ (by simpa using ho)

theorem rollback_step :
    Step tx backend .rollback (Call.rollback.perform tx backend).1
      (Call.rollback.perform tx backend).2.1 (Call.rollback.perform tx backend).2.2 := by
  simp only [Call.perform, rollback]
  split
  · exact .lateForAll ‹_› (.inr (.inr rfl))
  rename_i hr
  rw [Bool.not_eq_true] at hr
  split
  · exact .lateForLevel hr ‹_› (.inr ⟨rfl, rfl⟩)
  rename_i hc
  rcases tx.serverRollback_attempt backend with ⟨error, tx', backend', he, ha⟩ | ⟨tx', backend', he, ha⟩
  · rw [he]; exact .rollingBack hr hc ha
  · rw [he]; exact .rollingBack hr hc ha

theorem autoCommit_step :
    Step tx backend (.exit .commit) ((Call.exit .commit).perform tx backend).1
      ((Call.exit .commit).perform tx backend).2.1 ((Call.exit .commit).perform tx backend).2.2 := by
  simp only [Call.perform, exit, autoCommit]
  split
  · rename_i hd
    simp only [Bool.or_eq_true, decide_eq_true_eq] at hd
    rcases hd with (hr | hb) | hc
    · exact .left (.inl hr)
    · exact .left (.inr (.inr ⟨rfl, .inl hb⟩))
    · exact .left (.inr (.inl hc))
  rename_i hd
  simp only [Bool.or_eq_true, decide_eq_true_eq, not_or, Bool.not_eq_true] at hd
  obtain ⟨⟨hr, hb⟩, hc⟩ := hd
  split
  · rename_i ho
    exact .left (.inr (.inr ⟨rfl, .inr (by simpa using ho)⟩))
  rename_i ho
  have hroot : tx.outer = [] := by simpa using ho
  rcases tx.serverCommit_attempt backend with ⟨error, tx', backend', he, ha⟩ | ⟨tx', backend', he, ha⟩
  · rw [he]; exact .leaving hr hc (fun _ => ⟨hb, hroot⟩) ha
  · rw [he]; exact .leaving hr hc (fun _ => ⟨hb, hroot⟩) ha

theorem autoRollback_step :
    Step tx backend (.exit .rollback) ((Call.exit .rollback).perform tx backend).1
      ((Call.exit .rollback).perform tx backend).2.1
      ((Call.exit .rollback).perform tx backend).2.2 := by
  simp only [Call.perform, exit, autoRollback]
  split
  · rename_i hd
    simp only [Bool.or_eq_true, decide_eq_true_eq] at hd
    exact .left (hd.imp_right .inl)
  rename_i hd
  simp only [Bool.or_eq_true, decide_eq_true_eq, not_or, Bool.not_eq_true] at hd
  rcases tx.serverRollback_attempt backend with ⟨error, tx', backend', he, ha⟩ | ⟨tx', backend', he, ha⟩
  · rw [he]; exact .leaving hd.1 hd.2 (fun h => by cases h) ha
  · rw [he]; exact .leaving hd.1 hd.2 (fun h => by cases h) ha

theorem execute_step (sql : String) :
    Step tx backend (.execute sql) ((Call.execute sql).perform tx backend).1
      ((Call.execute sql).perform tx backend).2.1 ((Call.execute sql).perform tx backend).2.2 := by
  simp only [Call.perform, execute]
  cases hb : barred? sql with
  | some error => exact .barred hb (.inl rfl)
  | none =>
    cases hs : tx.carrier with
    | none => exact .closed hs (.inl rfl)
    | some carrier =>
      rcases hx : carrier.execute sql backend with ⟨result, carrier', backend'⟩
      have step := Step.executed hs hb hx
      simp only [hx]
      cases result <;> exact step

theorem fetch_step (sql : String) :
    Step tx backend (.fetch sql) ((Call.fetch sql).perform tx backend).1
      ((Call.fetch sql).perform tx backend).2.1 ((Call.fetch sql).perform tx backend).2.2 := by
  simp only [Call.perform, fetch]
  cases hb : barred? sql with
  | some error => exact .barred hb (.inr rfl)
  | none =>
    cases hs : tx.carrier with
    | none => exact .closed hs (.inr rfl)
    | some carrier =>
      rcases hx : carrier.fetch sql backend with ⟨result, backend'⟩
      have step := Step.fetched hs hb hx
      simp only [hx]
      cases result <;> exact step

theorem perform_step (call : Call) :
    Step tx backend call (call.perform tx backend).1 (call.perform tx backend).2.1
      (call.perform tx backend).2.2 := by
  cases call with
  | begin => exact tx.begin_step backend
  | commit => exact tx.commit_step backend
  | rollback => exact tx.rollback_step backend
  | exit action =>
    cases action with
    | commit => exact tx.autoCommit_step backend
    | rollback => exact tx.autoRollback_step backend
  | execute sql => exact tx.execute_step backend sql
  | fetch sql => exact tx.fetch_step backend sql

variable {tx backend}

theorem Attempt.change {action : ExitAction} {result : Except DriverError Unit} {tx' : Transaction}
    {backend' : Backend} (attempt : Attempt action tx backend result tx' backend') :
    ∃ texts commits rollbacks, Change texts commits rollbacks backend.server backend'.server := by
  cases attempt with
  | missing none => exact ⟨[], 0, 0, .refl _⟩
  | @refused carrier _ _ _ some finish =>
    have change := carrier.finish_change action backend
    rw [finish] at change
    exact change
  | @done carrier carrier' ended some finish =>
    obtain ⟨texts, commits, rollbacks, change⟩ := carrier.finish_change action backend
    rw [finish] at change
    obtain ⟨rollbacks', released⟩ := Backend.release_change carrier'.connection ended
    exact ⟨_, _, _, change.trans released⟩

theorem Step.change {call : Call} {answer : Except TransactionError Unit} {tx' : Transaction}
    {backend' : Backend} (step : Step tx backend call answer tx' backend') :
    ∃ texts commits rollbacks, Change texts commits rollbacks backend.server backend'.server := by
  cases step with
  | lateForAll | lateForRoot | lateForLevel | lateForCommit | entered | noted | left | barred
  | closed =>
    exact ⟨[], 0, 0, .refl _⟩
  | committing undecided root attempt => exact attempt.change
  | rollingBack whole uncommitted attempt => exact attempt.change
  | leaving whole uncommitted root attempt => exact attempt.change
  | @executed carrier _ sql _ _ some free run =>
    obtain ⟨texts, change⟩ := carrier.execute_change sql backend
    rw [run] at change
    exact ⟨texts, 0, 0, change⟩
  | @fetched carrier sql _ _ some free run =>
    obtain ⟨_, change⟩ := carrier.fetch_change sql backend
    rw [run] at change
    exact ⟨[], 0, 0, change⟩

end Transaction

end NestedTx
