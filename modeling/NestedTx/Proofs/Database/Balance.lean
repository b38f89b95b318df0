import NestedTx.Proofs.Database.Lending
import NestedTx.Proofs.Database.Tracked

namespace NestedTx

def Stats.lent (stats : Stats) : Nat := stats.created - stats.available

namespace Database

def borrowed (db : Database) : Nat := db.connections.countP fun held => held.any Connection.pooled

def handOpened (db : Database) : Nat :=
  db.serverTransactions.countP fun held => held.any fun tx => tx.connection.pooled

variable {db db' : Database}

theorem isSome_number? (connection : Connection) : connection.number?.isSome = connection.pooled := by
  unfold Connection.number?
  split <;> simp [*]

theorem length_lent (db : Database) : db.lent.length = db.borrowed + (db.handOpened +
    db.entries.countP fun entry => entry.transaction.number?.isSome) := by
  have borrowed (held : Option Connection) :
      (held.bind Connection.number?).isSome = held.any Connection.pooled := by
    cases held with
    | none => rfl
    | some connection => exact isSome_number? connection
  have opened (held : Option ServerTransaction) : (held.bind ServerTransaction.number?).isSome =
      held.any fun tx => tx.connection.pooled := by
    cases held with
    | none => rfl
    | some tx => exact isSome_number? tx.connection
  simp only [lent, List.length_append, List.length_filterMap_eq_countP, borrowed, opened]
  rfl

theorem countP_entries (p : Transaction → Bool) (db : Database) :
    (db.entries.countP fun entry => p entry.transaction) =
      (List.range db.entries.length).countP fun ref => p (db.transaction ref) := by
  have same : db.entries.map Entry.transaction =
      (List.range db.entries.length).map fun ref => db.transaction ref := by
    apply List.ext_getElem
    · simp
    · intro ref below _
      have known := List.getElem?_eq_getElem (by simpa using below : ref < db.entries.length)
      simp only [List.getElem_map, List.getElem_range, transaction_of_known known]
  have counts := congrArg (List.countP p) same
  rwa [List.countP_map, List.countP_map] at counts

theorem Unmoved.lent_eq (h : db.Unmoved db') : db'.lent = db.lent := by
  simp only [lent, h.entries, h.connections, h.serverTransactions]

end Database

namespace Action

def lends : Action → Bool
  | begin => true
  | execute _ _ => true
  | fetch _ _ => true
  | ping .pool => true
  | _ => false

theorem rootless_of_adds {action : Action} (adds : action.adds = true) : action.root? = none := by
  cases action with
  | begin | takeUp => rfl
  | _ => cases adds

theorem unmoved_of_failed {action : Action} (lends : action.lends = true) {db : Database}
    (failed : (action.perform db).1.toBool = false) : db.Unmoved (action.perform db).2 := by
  cases action with
  | begin =>
    rcases db.begin_fresh with ⟨error, db', he, unmoved⟩ | ⟨_, _, db', he, _⟩
    · simpa only [perform, he, Database.tell] using unmoved
    · simp only [perform, he, Database.tell] at failed
      cases failed
  | execute | fetch =>
    simp only [perform, Database.tell, Database.execute, Database.fetch]
    split <;> exact ⟨⟨rfl, rfl⟩, rfl, rfl⟩
  | ping target =>
    cases target with
    | connection ref => cases lends
    | pool =>
      simp only [perform, Database.tell, Database.ping, Database.pingPool]
      split <;> exact ⟨⟨rfl, rfl⟩, rfl, rfl⟩
  | _ => cases lends

end Action

namespace Run

def takenUp (run : Run) : Nat := (List.range run.db.entries.length).countP fun ref =>
  (run.db.transaction ref).number?.isSome && run.tookUp ref

variable {run : Run} {action : Action} {ref : Nat}

theorem Owning.number?_isSome (h : run.Owning) (below : ref < run.db.entries.length)
    (begun : run.tookUp ref = false) :
    (run.db.transaction ref).number?.isSome = run.db.isOpen ref := by
  have known := List.getElem?_eq_getElem below
  have own := h ref _ known begun
  rw [Database.transaction_of_known known, Bool.eq_iff_iff, Database.isOpen_iff known]
  cases hc : run.db.entries[ref].transaction.carrier with
  | none => simp [Transaction.number?, hc]
  | some carrier =>
    have held : 0 < run.db.entries[ref].handles := by
      apply Nat.pos_of_ne_zero
      intro unused
      cases hc.symm.trans (own.unused unused)
    simp [Transaction.number?_of_carrier hc, own.pooled carrier hc, held]

theorem Tracking.length_counted (h : run.Tracking) : run.db.counted.length =
    (List.range run.db.entries.length).countP fun ref => run.db.isOpen ref && !run.tookUp ref := by
  rw [List.countP_eq_length_filter]
  apply List.Perm.length_eq
  apply (List.perm_ext_iff_of_nodup h.nodup_counted (List.nodup_range.filter _)).mpr
  intro ref
  rw [h.mem_counted, List.mem_filter, List.mem_range, Bool.and_eq_true, Bool.not_eq_true']
  constructor
  · rintro ⟨opened, begun⟩
    obtain ⟨_, known⟩ := Database.exists_of_isOpen opened
    exact ⟨(List.getElem?_eq_some_iff.mp known).1, opened, begun⟩
  · exact And.right

theorem length_lent_eq (tracking : run.Tracking) (owning : run.Owning) : run.db.lent.length =
    run.db.counted.length + run.db.borrowed + (run.db.handOpened + run.takenUp) := by
  -- Of the roots with a connection, those that were taken up are counted by the last term alone.
  have split := List.countP_eq_countP_filter_add (List.range run.db.entries.length)
    (fun ref => (run.db.transaction ref).number?.isSome) fun ref => run.tookUp ref
  rw [List.countP_filter, List.countP_filter] at split
  have begun : ((List.range run.db.entries.length).countP fun ref =>
      (run.db.transaction ref).number?.isSome && !run.tookUp ref) = run.db.counted.length := by
    rw [tracking.length_counted]
    apply List.countP_congr
    intro ref mem
    cases took : run.tookUp ref with
    | true => simp
    | false => rw [owning.number?_isSome (List.mem_range.mp mem) took]
  rw [Database.length_lent, run.db.countP_entries fun tx => tx.number?.isSome, split, begun, takenUp]
  omega

theorem Tracking.closed (h : run.Tracking) (mem : ref ∈ run.db.counted)
    (gone : (run.step action).db.isOpen ref = false) :
    (run.step action).db.counted.length + 1 = run.db.counted.length := by
  obtain ⟨opened, begun⟩ := h.mem_counted.mp mem
  obtain ⟨entry, known⟩ := Database.exists_of_isOpen opened
  have about : action.root? = some ref := by
    by_cases about : action.root? = some ref
    · exact about
    · have same := Database.isOpen_of_entries ((Action.entries_other about known).trans known.symm)
      cases opened.symm.trans (same.symm.trans gone)
  have h' := h.step action
  have new : ref ∉ (run.step action).db.counted := by
    intro mem
    cases (h'.mem_counted.mp mem).1.symm.trans gone
  have members (other : Nat) :
      other ∈ run.db.counted ↔ other ∈ ref :: (run.step action).db.counted := by
    rw [List.mem_cons]
    constructor
    · intro mem
      by_cases same : other = ref
      · exact .inl same
      · obtain ⟨opened, begun⟩ := h.mem_counted.mp mem
        obtain ⟨entry, known⟩ := Database.exists_of_isOpen opened
        have ne : action.root? ≠ some other := fun he => same (Option.some.inj (he.symm.trans about))
        have below := (List.getElem?_eq_some_iff.mp known).1
        refine .inr (h'.mem_counted.mpr ⟨?_, (tookUp_old below).trans begun⟩)
        rw [db_step, Database.isOpen_of_entries ((Action.entries_other ne known).trans known.symm)]
        exact opened
    · rintro (rfl | mem)
      · exact mem
      · obtain ⟨opened, begun⟩ := h'.mem_counted.mp mem
        obtain ⟨entry, known⟩ := Database.exists_of_isOpen opened
        have below : other < run.db.entries.length := by
          apply Nat.lt_of_not_le
          intro beyond
          have adds := adds_of_longer
            (Nat.lt_of_le_of_lt beyond (List.getElem?_eq_some_iff.mp known).1)
          cases about.symm.trans (Action.rootless_of_adds adds)
        exact h.mem_counted.mpr
          ⟨Action.isOpen_of_perform below opened, (tookUp_old below).symm.trans begun⟩
  have same := (List.perm_ext_iff_of_nodup h.nodup_counted
    (List.nodup_cons.mpr ⟨new, h'.nodup_counted⟩)).mpr members
  exact same.length_eq.symm

theorem tookUp_steps (begun : run.tookUp ref = false) {actions : List Action}
    (none : ∀ hand id settings, Action.takeUp hand id settings ∉ actions) :
    (run.steps actions).tookUp ref = false := by
  induction actions generalizing run with
  | nil => exact begun
  | cons action actions ih =>
    have next : (run.step action).tookUp ref = false := by
      apply Bool.eq_false_iff.mpr
      intro took
      rcases tookUp_of_step took with before | ⟨_, _, hand, id, settings, rfl⟩
      · cases begun.symm.trans before
      · exact none hand id settings List.mem_cons_self
    exact ih next fun hand id settings mem => none hand id settings (List.mem_cons_of_mem _ mem)

theorem takenUp_eq_zero (begun : ∀ ref, run.tookUp ref = false) : run.takenUp = 0 := by
  apply List.countP_eq_zero.mpr
  intro ref _
  simp [begun ref]

theorem start_accounts (server : Server) (settings : Settings) (actions : List Action) :
    let run := (start server settings).steps actions
    ∃ gone, run.db.backend.pool.Accounts run.db.lent gone := by
  have begins : (start server settings).db.backend.pool.Accounts (start server settings).db.lent [] :=
    .empty settings.maxConnections
  exact ⟨_, ((start_consistent server settings).accounts_steps begins actions).1⟩

theorem stats_lent {gone : List Nat} (accounts : run.db.backend.pool.Accounts run.db.lent gone) :
    run.db.stats.1.available ≤ run.db.stats.1.created ∧ run.db.stats.1.lent = run.db.lent.length := by
  have created : run.db.stats.1.created = run.db.stats.1.available + run.db.lent.length :=
    accounts.created
  rw [Stats.lent, created]
  omega

theorem stats_active (run : Run) : run.db.stats.1.active = run.db.counted.length := by
  rw [Database.counted, Database.kept, List.length_map]
  rfl

/-- The connections that are not available are those of the active transactions and those of users: the
ones that they borrowed, and those of the transactions that they opened by hand, also if such a one was
taken up. A transaction counts from its begin until it is finalized or nobody holds it any more. A
connection that was borrowed for an action that fails is available again, and one that is thrown away
does not count as created any more. -/
theorem stats_balance (server : Server) (settings : Settings) (actions : List Action) :
    let run := (start server settings).steps actions
    let stats := run.db.stats.1
    stats.available ≤ stats.created ∧
      stats.lent = stats.active + run.db.borrowed + (run.db.handOpened + run.takenUp) ∧
      ((∀ hand id settings, Action.takeUp hand id settings ∉ actions) → run.takenUp = 0) ∧
      stats.active = run.db.counted.length ∧ run.db.counted.Nodup ∧
      (∀ ref, ref ∈ run.db.counted ↔ run.db.isOpen ref = true ∧ run.tookUp ref = false) ∧
      ∀ action, let run' := run.step action
        let stats' := run'.db.stats.1
        (∀ ref ∈ run.db.counted, run'.db.isOpen ref = false →
          ref ∉ run'.db.counted ∧ stats'.active + 1 = stats.active) ∧
        (action.lends = true → (action.perform run.db).1.toBool = false → stats'.lent = stats.lent) ∧
        stats'.created + (run.discarded action).length = stats.created + run.opened action ∧
        stats'.lent = stats'.active + run'.db.borrowed + (run'.db.handOpened + run'.takenUp) := by
  intro run stats
  have tracking : run.Tracking := start_tracking server settings actions
  have owning : run.Owning := start_owning server settings actions
  have backed := ((start_consistent server settings).steps actions).backed
  obtain ⟨before, accounts⟩ := start_accounts server settings actions
  obtain ⟨available, lent⟩ := stats_lent accounts
  refine ⟨available, ?_, fun none => ?_, run.stats_active, tracking.nodup_counted,
    fun ref => tracking.mem_counted, fun action => ?_⟩
  · rw [lent, run.stats_active]
    exact length_lent_eq tracking owning
  · apply takenUp_eq_zero
    intro ref
    exact tookUp_steps rfl none
  · intro run' stats'
    obtain ⟨gone, lends⟩ := backed.lends action
    have created := lends.created accounts
    obtain ⟨_, lent'⟩ := stats_lent (lends.accounts accounts)
    refine ⟨fun ref mem gone => ⟨?_, ?_⟩, fun borrows failed => ?_, ?_, ?_⟩
    · intro mem'
      cases ((tracking.step action).mem_counted.mp mem').1.symm.trans gone
    · rw [run'.stats_active, run.stats_active]
      exact tracking.closed mem gone
    · have same : run'.db.lent = run.db.lent := (Action.unmoved_of_failed borrows failed).lent_eq
      rw [lent', same]
      exact lent.symm
    · rw [(discarded_perm accounts lends).length_eq]
      exact created
    · rw [lent', run'.stats_active]
      exact length_lent_eq (tracking.step action) (owning.step action)

example :
    let run := (start .empty .standard).steps
      [.begin, .borrow, .setFaults ⟨0, false, false, false, true⟩, .drop 0]
    run.db.stats.1 = ⟨1, 0, 10, 0⟩ ∧ run.db.borrowed = 1 := by decide +kernel

end Run

end NestedTx
