import NestedTx.Proofs.Transaction.Soundness

namespace NestedTx

theorem Watchdog.disarm_ne_armed (watchdog : Watchdog) : watchdog.disarm ≠ .armed := by
  cases watchdog <;> nofun

namespace Transaction

variable {tx tx' : Transaction} {backend backend' : Backend}

structure Guards (tx tx' : Transaction) : Prop where
  settings : tx'.settings = tx.settings
  leaked : tx'.leaked = tx.leaked
  watchdog : tx'.watchdog = tx.watchdog ∧ tx'.isFinalized = tx.isFinalized ∨
    tx'.watchdog = tx.watchdog.disarm ∧ tx'.isFinalized = true

namespace Guards

theorem refl (tx : Transaction) : tx.Guards tx := ⟨rfl, rfl, .inl ⟨rfl, rfl⟩⟩

theorem setStatus (h : tx.Guards tx') (status : Status) : tx.Guards (tx'.setStatus status) :=
  ⟨h.settings, h.leaked, h.watchdog⟩

theorem settle (h : tx.Guards tx') (action : ExitAction) : tx.Guards (tx'.settle action) := by
  cases action <;> exact ⟨h.settings, h.leaked, h.watchdog⟩

theorem pop (h : tx.Guards tx') : tx.Guards tx'.pop := by
  unfold Transaction.pop
  split
  · exact h
  · exact ⟨h.settings, h.leaked, h.watchdog⟩

theorem carry {carrier : ServerTransaction} (some : tx.carrier = some carrier)
    (carrier' : ServerTransaction) : tx.Guards { tx with carrier := .some carrier' } :=
  ⟨rfl, rfl, .inl ⟨rfl, by simp [isFinalized, some]⟩⟩

theorem disarm (tx : Transaction) :
    tx.Guards { tx with carrier := none, watchdog := tx.watchdog.disarm } :=
  ⟨rfl, rfl, .inr ⟨rfl, rfl⟩⟩

theorem attempt {action : ExitAction} {result : Except DriverError Unit}
    (attempt : Attempt action tx backend result tx' backend') : tx.Guards tx' := by
  cases attempt with
  | missing none => exact (refl tx).setStatus .errored
  | refused some finish => exact (carry some _).setStatus .errored
  | done some finish => exact (disarm tx).settle action

theorem step {call : Call} {answer : Except TransactionError Unit}
    (step : Step tx backend call answer tx' backend') : tx.Guards tx' := by
  cases step with
  | lateForAll | lateForRoot | lateForLevel | lateForCommit | barred | closed | fetched => exact refl tx
  | entered => exact ⟨rfl, rfl, .inl ⟨rfl, rfl⟩⟩
  | noted => exact (refl tx).setStatus .committed
  | left => exact (refl tx).pop
  | committing undecided root attempt => exact .attempt attempt
  | rollingBack whole uncommitted attempt => exact .attempt attempt
  | leaving whole uncommitted root attempt => exact (Guards.attempt attempt).pop
  | executed some free run => exact carry some _

theorem perform (tx : Transaction) (call : Call) (backend : Backend) :
    tx.Guards (call.perform tx backend).2.1 := step (tx.perform_step backend call)

theorem abandon (tx : Transaction) (backend : Backend) : tx.Guards (tx.abandon backend).1 := by
  unfold Transaction.abandon
  split
  · rename_i none
    exact ⟨rfl, rfl, .inr ⟨rfl, by simp [isFinalized, none]⟩⟩
  · exact disarm tx

theorem expired (h : tx.Guards tx') (expired : tx.watchdog = .expired) : tx'.watchdog = .expired := by
  rcases h.watchdog with ⟨watchdog, _⟩ | ⟨watchdog, _⟩
  · rw [watchdog, expired]
  · rw [watchdog, expired]
    rfl

end Guards

structure Watched (tx : Transaction) : Prop where
  standsBy : tx.watchdog = .armed → tx.settings.strict = true ∧ tx.isFinalized = false
  guarded : tx.settings.strict = true → tx.isFinalized = false →
    tx.watchdog = .armed ∨ tx.watchdog = .expired
  spent : tx.leaked = true → tx.watchdog = .expired

theorem root_watched (id : String) (carrier : ServerTransaction) (settings : TransactionSettings) :
    (root id carrier settings).Watched := by
  cases strict : settings.strict with
  | true => exact ⟨fun _ => ⟨strict, rfl⟩, fun _ _ => .inl (by simp [root, strict]), nofun⟩
  | false =>
    refine ⟨fun armed => ?_, fun strict' => ?_, nofun⟩
    · simp [root, strict] at armed
    · cases strict.symm.trans strict'

theorem expire_marks (tx : Transaction) :
    tx.expire = { tx with watchdog := tx.expire.watchdog, leaked := tx.expire.leaked } := by
  unfold expire
  split <;> rfl

theorem expire_of_unarmed (unarmed : tx.watchdog ≠ .armed) : tx.expire = tx := by
  unfold expire
  split
  · rename_i armed
    exact absurd armed unarmed
  · rfl

theorem watchdog_expire (armed : tx.watchdog = .armed) : tx.expire.watchdog = .expired := by
  simp [expire, armed]

theorem leaked_expire (tx : Transaction) : tx.expire.leaked = (tx.leaked || tx.leaksNow) := by
  by_cases armed : tx.watchdog = .armed
  · simp [expire, leaksNow, armed]
  · rw [expire_of_unarmed armed]
    simp [leaksNow, armed]

namespace Watched

theorem guards (h : tx.Watched) (guards : tx.Guards tx') : tx'.Watched := by
  obtain ⟨settings, leaked, ⟨watchdog, finalized⟩ | ⟨watchdog, finalized⟩⟩ := guards
  · exact ⟨by rw [watchdog, settings, finalized]; exact h.standsBy,
      by rw [watchdog, settings, finalized]; exact h.guarded, by rw [watchdog, leaked]; exact h.spent⟩
  · refine ⟨fun armed => ?_, fun _ unfinalized => ?_, fun found => ?_⟩
    · rw [watchdog] at armed
      exact absurd armed tx.watchdog.disarm_ne_armed
    · cases finalized.symm.trans unfinalized
    · rw [leaked] at found
      rw [watchdog, h.spent found]
      rfl

theorem expire (h : tx.Watched) : tx.expire.Watched := by
  by_cases armed : tx.watchdog = .armed
  · have expired := watchdog_expire armed
    refine ⟨fun armed' => ?_, fun _ _ => .inr expired, fun _ => expired⟩
    cases expired.symm.trans armed'
  · rw [expire_of_unarmed armed]
    exact h

theorem leaked_eq_false (h : tx.Watched) (leaks : tx.leaksNow = true) : tx.leaked = false := by
  apply Bool.eq_false_iff.mpr
  intro found
  simp [leaksNow, h.spent found] at leaks

theorem of_leaksNow (h : tx.Watched) (leaks : tx.leaksNow = true) :
    tx.settings.strict = true ∧ tx.isFinalized = false := by
  apply h.standsBy
  simp only [leaksNow, Bool.and_eq_true, decide_eq_true_eq] at leaks
  exact leaks.1.1

theorem unarmed_of_finalized (h : tx.Watched) (finalized : tx.isFinalized = true) :
    tx.watchdog ≠ .armed := by
  intro armed
  cases finalized.symm.trans (h.standsBy armed).2

end Watched

namespace Sound

theorem leaksNow_of_finalized (h : tx.Sound) (finalized : tx.isFinalized = true) (watchdog : Watchdog) :
    ({ tx with watchdog } : Transaction).leaksNow = false := by
  rcases h.carrier_eq_none.mp (Option.isNone_iff_eq_none.mp finalized) with committed | rolledBack
  · have shown : tx.shown = .committed :=
      h.shown_eq.trans (h.carrierCommitted_iff.mp committed).2
    simp [leaksNow, shown, Status.isPending]
  · simp [leaksNow, rolledBack]

theorem leaksNow_of_open (h : tx.Sound) (opened : tx.isFinalized = false)
    (armed : tx.watchdog = .armed) : tx.leaksNow = tx.status.isPending := by
  have carried : ∃ carrier, tx.carrier = some carrier :=
    Option.isSome_iff_exists.mp (by simpa [isFinalized] using opened)
  obtain ⟨carrier, some⟩ := carried
  simp [leaksNow, armed, h.flags_of_carrier some, h.shown_eq]

end Sound

end Transaction

end NestedTx
