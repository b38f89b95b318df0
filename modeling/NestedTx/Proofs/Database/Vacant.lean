import NestedTx.Proofs.Database.Balance
import NestedTx.Proofs.Database.Depth

namespace NestedTx

theorem Database.isOpen_of_unheld {db : Database} {ref : Nat} (unheld : db.handles ref = 0) :
    db.isOpen ref = false := by
  cases known : db.entries[ref]? with
  | none => simp only [isOpen, known]
  | some entry =>
    rw [handles_of_known known] at unheld
    simp [isOpen, known, unheld]

namespace Run

/-- Nothing is open, and every connection that was opened is idle without a transaction, if it is not
among those that were thrown away. -/
structure Vacant (run : Run) (thrown : List Nat) : Prop where
  ended : ∀ ref, run.db.isOpen ref = false
  active : run.db.stats.1.active = 0
  lent : run.db.lent = []
  created : run.db.backend.pool.created = run.db.backend.pool.idle.length
  free : ∀ idle ∈ run.db.backend.pool.idle, idle.2.pending = none
  places : ∀ id, 0 < id → id < run.db.backend.pool.nextId →
    run.db.backend.pool.numbers.count id + thrown.count id = 1

variable {run : Run}

theorem Tracking.active_eq_zero (tracking : run.Tracking) (ended : ∀ ref, run.db.isOpen ref = false) :
    run.db.stats.1.active = 0 := by
  have none : run.db.counted = [] := by
    apply List.eq_nil_iff_forall_not_mem.mpr
    intro ref mem
    cases (tracking.mem_counted.mp mem).1.symm.trans (ended ref)
  rw [run.stats_active, none]
  rfl

theorem Owning.lent_eq_nil (owning : run.Owning) (begun : ∀ ref, run.tookUp ref = false)
    (unlent : run.db.Unlent) (unheld : ∀ ref, run.db.handles ref = 0) : run.db.lent = [] := by
  have entries : run.db.entries.filterMap (·.transaction.number?) = [] := by
    apply List.filterMap_eq_nil_iff.mpr
    intro entry mem
    obtain ⟨ref, known⟩ := List.mem_iff_getElem?.mp mem
    have none := unheld ref
    rw [Database.handles_of_known known] at none
    rw [Transaction.number?, (owning ref entry known (begun ref)).unused none]
    rfl
  rw [Database.lent, unlent.connections, unlent.serverTransactions, entries]
  rfl

theorem vacant_of_unheld (server : Server) (settings : Settings) {actions : List Action}
    (plain : ∀ action ∈ actions, action.isPlain = true)
    (reached : (start server settings).steps actions = run) (unlent : run.db.Unlent)
    (unheld : ∀ ref, run.db.handles ref = 0) : run.Vacant ((start server settings).discards actions) := by
  subst reached
  have consistent := start_consistent server settings
  have begins : (start server settings).db.backend.pool.Accounts (start server settings).db.lent [] :=
    .empty settings.maxConnections
  obtain ⟨accounts, _⟩ := consistent.accounts_steps begins actions
  have begun (ref : Nat) : ((start server settings).steps actions).tookUp ref = false :=
    tookUp_steps rfl fun hand id settings mem => nomatch plain _ mem
  have ended (ref : Nat) := Database.isOpen_of_unheld (unheld ref)
  have lent := (start_owning server settings actions).lent_eq_nil begun unlent unheld
  rw [lent, List.append_nil] at accounts
  refine ⟨ended, (start_tracking server settings actions).active_eq_zero ended, lent,
    accounts.created, (consistent.steps actions).tidy.clean, fun id first below => ?_⟩
  have place := accounts.places id
  rwa [if_pos ⟨first, below⟩, List.count_nil, Nat.add_zero] at place

end Run

end NestedTx
