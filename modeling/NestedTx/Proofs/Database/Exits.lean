import NestedTx.Proofs.Database.Begun
import NestedTx.Proofs.Transaction.Finality
import NestedTx.Proofs.Transaction.Levels

namespace NestedTx

def ExitAction.count (counters : Counters) : ExitAction → Counters
  | commit => { counters with commits := counters.commits + 1 }
  | rollback => { counters with rollbacks := counters.rollbacks + 1 }

def ExitAction.undoes (action : ExitAction) (status : Status) : Bool :=
  action = rollback ∧ status ≠ .committed

def ExitAction.ending (exits : List ExitAction) (levels : List Status) : ExitAction :=
  if (exits.zip levels).any fun exit => exit.1.undoes exit.2 then rollback else commit

def ExitAction.standing (action : ExitAction) : Database.Standing :=
  ⟨none, some (action = commit, action = rollback)⟩

namespace ExitAction

variable {action : ExitAction} {exits : List ExitAction} {status : Status} {outer : List Status}

theorem ending_of_passes (passes : action.undoes status = false) :
    ending (action :: exits) (status :: outer) = ending exits outer := by
  simp only [ending, List.zip_cons_cons, List.any_cons, passes, Bool.false_or]

theorem ending_of_undoes (undoes : action.undoes status = true) :
    ending (action :: exits) (status :: outer) = rollback := by
  simp only [ending, List.zip_cons_cons, List.any_cons, undoes, Bool.true_or, if_true]

theorem ending_eq_rollback_iff {levels : List Status} : ending exits levels = rollback ↔
    ∃ status, (rollback, status) ∈ exits.zip levels ∧ status ≠ .committed := by
  unfold ending
  constructor
  · intro ends
    split at ends
    · rename_i some
      obtain ⟨⟨action, status⟩, mem, does⟩ := List.any_eq_true.mp some
      obtain ⟨rfl, uncommitted⟩ : action = rollback ∧ status ≠ .committed := by
        simpa [undoes] using does
      exact ⟨status, mem, uncommitted⟩
    · cases ends
  · rintro ⟨status, mem, uncommitted⟩
    rw [if_pos]
    apply List.any_eq_true.mpr
    exact ⟨(rollback, status), mem, by simp [undoes, uncommitted]⟩

end ExitAction

namespace ServerTransaction

theorem counters_finish {tx : ServerTransaction} (live : tx.done = false) (action : ExitAction)
    (backend : Backend) :
    (tx.finish action backend).2.2.server.counters = action.count backend.server.counters := by
  cases action with
  | commit =>
    simp only [finish, commit, live, Bool.false_eq_true, if_false, Link.commit]
    cases tx.connection.link.pending with
    | none => rfl
    | some texts => by_cases hf : backend.server.faults.commit = true <;> simp [hf] <;> rfl
  | rollback =>
    simp only [finish, rollback, live, Bool.false_eq_true, if_false, Link.rollback]
    cases tx.connection.link.pending with
    | none => rfl
    | some texts => by_cases hf : backend.server.faults.rollback = true <;> simp [hf] <;> rfl

end ServerTransaction

namespace Transaction

variable {tx tx' : Transaction} {backend backend' : Backend} {carrier : ServerTransaction}
  {texts : List String}

theorem Attempt.ends (some : tx.carrier = some carrier) (holds : carrier.Holds texts)
    (live : carrier.done = false) (obliging : backend.server.Obliging) {action : ExitAction}
    {result : Except DriverError Unit} (h : Attempt action tx backend result tx' backend') :
    result = .ok () ∧
      tx' = { tx with carrier := none, watchdog := tx.watchdog.disarm }.settle action ∧
      backend'.server.counters = action.count backend.server.counters ∧
      backend'.server.journal = backend.server.journal ++ action.published texts := by
  have counters := ServerTransaction.counters_finish live action backend
  cases h with
  | missing none => cases none.symm.trans some
  | refused some' finish =>
    cases some.symm.trans some'
    rcases holds.finish_cases action backend with ⟨_, _, _, _, _, _, done⟩ | ⟨_, he, _⟩
    · simp [done obliging] at live
    · cases he.symm.trans finish
  | done some' finish =>
    cases some.symm.trans some'
    rcases holds.finish_cases action backend with ⟨_, _, _, _, he, _⟩ | ⟨_, he, change, _⟩
    · cases he.symm.trans finish
    · rw [he] at counters
      cases he.symm.trans finish
      rw [Backend.release_of_free rfl, Backend.giveBack_server]
      exact ⟨rfl, rfl, counters, change.journal⟩

theorem Sound.exit_cases (h : tx.Sound) (some : tx.carrier = some carrier)
    (holds : carrier.Holds texts) (live : carrier.done = false) (obliging : backend.server.Obliging)
    (action : ExitAction) :
    (action.undoes tx.status = false ∧ tx.outer ≠ [] ∧
      (Call.exit action).perform tx backend = (.ok (), tx.pop, backend)) ∨
    (action = .rollback ∧ action.undoes tx.status = true ∨ action = .commit ∧ tx.outer = []) ∧
      ∃ tx' backend', (Call.exit action).perform tx backend = (.ok (), tx'.pop, backend') ∧
        tx' = { tx with carrier := none, watchdog := tx.watchdog.disarm }.settle action ∧
        backend'.server.counters = action.count backend.server.counters ∧
        backend'.server.journal = backend.server.journal ++ action.published texts := by
  have step := tx.perform_step backend (.exit action)
  obtain ⟨_, whole⟩ := h.flags_of_carrier some
  generalize (Call.exit action).perform tx backend = did at step ⊢
  obtain ⟨answer, tx', backend'⟩ := did
  cases step with
  | lateForAll _ asks => rcases asks with he | he | he <;> cases he
  | lateForLevel _ _ asks => rcases asks with ⟨he, _⟩ | ⟨he, _⟩ <;> cases he
  | barred _ asks | closed _ asks => rcases asks with he | he <;> cases he
  | left decided =>
    left
    have nested : tx.outer ≠ [] := by
      intro root
      have undecided := h.undecided_of_root some root
      simp [whole, undecided.committed, undecided.rolledBack, root] at decided
    refine ⟨?_, nested, rfl⟩
    rcases decided with rolledBack | committed | ⟨rfl, _⟩
    · simp [whole] at rolledBack
    · simp [ExitAction.undoes, committed]
    · rfl
  | leaving _ uncommitted root attempt =>
    right
    obtain ⟨rfl, settled, counters, journal⟩ := attempt.ends some holds live obliging
    constructor
    · cases action with
      | commit => exact .inr ⟨rfl, (root rfl).2⟩
      | rollback => exact .inl ⟨rfl, by simp [ExitAction.undoes, uncommitted]⟩
    · exact ⟨_, backend', rfl, settled, counters, journal⟩

end Transaction

namespace Database

def exits (ref : Nat) : List ExitAction → Database → List (Except TransactionError Unit) × Database
  | [], db => ([], db)
  | action :: actions, db =>
    match db.exit action ref with
    | (answer, db) =>
      match exits ref actions db with
      | (answers, db) => (answer :: answers, db)

variable {db : Database} {ref handles : Nat} {tx tx' : Transaction} {texts : List String}

theorem exits_cons (known : db.entries[ref]? = some ⟨tx, handles⟩) {action : ExitAction}
    {answer : Except TransactionError Unit} {backend' : Backend}
    (did : (Transaction.Call.exit action).perform tx db.backend = (answer, tx', backend')) :
    ∃ db' : Database, db'.entries[ref]? = some ⟨tx', handles⟩ ∧ db'.backend = backend' ∧
      ∀ actions, db.exits ref (action :: actions) =
        (answer :: (db'.exits ref actions).1, (db'.exits ref actions).2) := by
  obtain ⟨db', he, known', backend⟩ := perform_known known [] did
  refine ⟨db', known', backend, ?_⟩
  intro actions
  have hexit : db.exit action ref = (answer, db') := he
  simp only [exits, hexit]

theorem exits_over (known : db.entries[ref]? = some ⟨tx, handles⟩) (sound : tx.Sound)
    (spent : tx.carrier = none) (actions : List ExitAction) :
    ∃ (tx' : Transaction) (db' : Database),
      db.exits ref actions = (actions.map fun _ => .ok (), db') ∧
      db'.entries[ref]? = some ⟨tx', handles⟩ ∧ db'.backend = db.backend ∧
      tx'.standing = tx.standing ∧ tx'.outer.length = tx.outer.length - actions.length := by
  induction actions generalizing db tx with
  | nil => exact ⟨tx, db, rfl, known, rfl, rfl, rfl⟩
  | cons action actions ih =>
    have did : (Transaction.Call.exit action).perform tx db.backend = (.ok (), tx.pop, db.backend) := by
      simp only [Transaction.Call.perform, sound.exit_of_over spent]
      rfl
    obtain ⟨left, known', backend, he⟩ := exits_cons known did
    obtain ⟨tx', db', hrest, known'', backend', standing, outer⟩ :=
      ih known' sound.pop (by simp [spent])
    refine ⟨tx', db', ?_, known'', backend'.trans backend, ?_, ?_⟩
    · rw [he, hrest, List.map_cons]
    · rw [standing]
      simp [Transaction.standing]
    · rw [outer, Transaction.length_pop, List.length_cons]
      omega

theorem exits_open (known : db.entries[ref]? = some ⟨tx, handles⟩) (sound : tx.Sound)
    {carrier : ServerTransaction} (some : tx.carrier = some carrier) (holds : carrier.Holds texts)
    (live : carrier.done = false) (obliging : db.backend.server.Obliging) {actions : List ExitAction}
    (all : actions.length = tx.depth + 1) :
    let ending := ExitAction.ending actions (tx.status :: tx.outer)
    ∃ (tx' : Transaction) (db' : Database),
      db.exits ref actions = (actions.map fun _ => .ok (), db') ∧
        db'.entries[ref]? = .some ⟨tx', handles⟩ ∧ tx'.depth = 0 ∧ tx'.standing = ending.standing ∧
        db'.backend.server.counters = ending.count db.backend.server.counters ∧
        db'.backend.server.journal = db.backend.server.journal ++ ending.published texts := by
  induction actions generalizing db tx with
  | nil => cases all
  | cons action actions ih =>
    have rest : actions.length = tx.outer.length := Nat.succ.inj all
    -- The exit of the innermost level leaves the decision to the next one, or takes it for all of them.
    rcases sound.exit_cases some holds live obliging action with
      ⟨passes, nested, did⟩ | ⟨ends, tx', backend', did, settled, counters, journal⟩
    · obtain ⟨left, known', backend, he⟩ := exits_cons known did
      obtain ⟨saved, outer, ho⟩ := List.exists_cons_of_ne_nil nested
      have levels : tx.pop.status :: tx.pop.outer = tx.outer := by
        simp [Transaction.pop, ho, Transaction.setStatus]
      have all' : actions.length = tx.pop.depth + 1 := by
        rw [rest, ← levels]
        rfl
      obtain ⟨tx', db', hrest, known'', depth, standing, counters, journal⟩ :=
        ih known' sound.pop (by simp [some]) (by rwa [backend]) all'
      rw [levels, backend] at *
      intro ending
      have same : ending = ExitAction.ending actions tx.outer := ExitAction.ending_of_passes passes
      refine ⟨tx', db', ?_, known'', depth, same ▸ standing, same ▸ counters, same ▸ journal⟩
      rw [he, hrest, List.map_cons]
    · have sound' := sound.perform (.exit action) db.backend
      rw [did] at sound'
      obtain ⟨left, known', backend, he⟩ := exits_cons known did
      have spent : tx'.pop.carrier = none := by
        rw [Transaction.pop_carrier, settled, Transaction.settle_carrier]
      have here : ExitAction.ending (action :: actions) (tx.status :: tx.outer) = action := by
        rcases ends with ⟨rfl, undoes⟩ | ⟨rfl, root⟩
        · exact ExitAction.ending_of_undoes undoes
        · rw [root] at rest ⊢
          rw [List.eq_nil_of_length_eq_zero rest]
          rfl
      obtain ⟨tx'', db', hrest, known'', backend'', standing, outer⟩ :=
        exits_over known' sound' spent actions
      refine ⟨tx'', db', ?_, known'', ?_, ?_, ?_⟩
      · rw [he, hrest, List.map_cons]
      · have levels : tx'.outer = tx.outer := by rw [settled]; cases action <;> rfl
        rw [Transaction.depth, outer, Transaction.length_pop, levels, rest]
        omega
      · obtain ⟨uncommitted, whole⟩ := sound.flags_of_carrier some
        rw [standing, here, settled]
        cases action <;> simp [Transaction.standing, Transaction.settle, Transaction.setStatus,
          ExitAction.standing, uncommitted, whole]
      · rw [here, backend'', backend]
        exact ⟨counters, journal⟩

end Database

namespace Run

/-- The levels of a transaction that is not finalized are all left, on a server that neither refuses a
commit nor a rollback. Every exit succeeds, and one call on the server ends the transaction: a rollback
if some level is rolled back on its exit that was not committed, and otherwise a commit. Of a
transaction that was opened by hand it is assumed that its user did not end it by hand too. -/
theorem exits_decide (server : Server) (settings : Settings) (actions : List Action) {run : Run}
    (reached : (start server settings).steps actions = run) {ref : Nat}
    (held : run.db.isHeld ref = true) (unfinalized : (run.db.transaction ref).isFinalized = false)
    (unspent : run.tookUp ref = true → isLive (run.db.held (.root ref)) = true)
    (obliging : run.db.backend.server.Obliging) {exits : List ExitAction}
    (all : exits.length = (run.db.transaction ref).depth + 1) :
    let tx := run.db.transaction ref
    let counters := run.db.backend.server.counters
    let left := run.db.exits ref exits
    let tx' := left.2.transaction ref
    left.1 = exits.map (fun _ => .ok ()) ∧ tx'.depth = 0 ∧ tx'.isFinalized = true ∧
      (tx'.rolledBack = true ↔
        ∃ status, (.rollback, status) ∈ exits.zip (tx.status :: tx.outer) ∧ status ≠ .committed) ∧
      tx'.carrierCommitted = !tx'.rolledBack ∧
      (left.2.backend.server.counters = if tx'.rolledBack
        then { counters with rollbacks := counters.rollbacks + 1 }
        else { counters with commits := counters.commits + 1 }) ∧
      left.2.backend.server.journal = run.db.backend.server.journal ++
        if tx'.rolledBack then [] else History.statements (.root ref) run.history := by
  obtain ⟨⟨tx, handles⟩, carrier, known, sound, some, holds, live⟩ :=
    exists_live reached held unfinalized unspent
  replace some : tx.carrier = .some carrier := some
  have htx : run.db.transaction ref = tx := Database.transaction_of_known known
  rw [htx] at all
  obtain ⟨tx', db', did, known', depth, standing, counters, journal⟩ :=
    Database.exits_open known sound some holds live obliging all
  have htx' : db'.transaction ref = tx' := Database.transaction_of_known known'
  have ending := @ExitAction.ending_eq_rollback_iff exits (tx.status :: tx.outer)
  rw [htx, did]
  dsimp only
  rw [htx', counters, journal, ← ending]
  obtain ⟨none, flags⟩ := Database.Standing.mk.inj standing
  obtain ⟨committed, rolledBack⟩ := Prod.mk.inj (Option.some.inj flags)
  rw [committed, rolledBack]
  refine ⟨rfl, depth, by rw [Transaction.isFinalized, none]; rfl, decide_eq_true_iff, ?_⟩
  cases ExitAction.ending exits (tx.status :: tx.outer) with
  | commit => simp [ExitAction.count, ExitAction.published]
  | rollback => simp [ExitAction.count, ExitAction.published]

theorem exits_decide_commit :
    let refusing : Faults := ⟨0, false, false, false, true⟩
    let run := (start .empty .standard).steps [.begin, .call 0 .begin [], .call 0 .commit [],
      .call 0 .begin [], .setFaults refusing, .call 0 .rollback [], .setFaults .none]
    let left := run.db.exits 0 [.commit, .rollback, .commit]
    run.db.isHeld 0 = true ∧ (run.db.transaction 0).isFinalized = false ∧
      run.db.backend.server.Obliging ∧
      (run.db.transaction 0).status = .errored ∧
      (run.db.transaction 0).outer = [.committed, .pending] ∧
      left.1 = [.ok (), .ok (), .ok ()] ∧ (left.2.transaction 0).depth = 0 ∧
      (left.2.transaction 0).carrierCommitted = true := by
  intro refusing run left
  have held : run.db.isHeld 0 = true := by decide +kernel
  have unfinalized : (run.db.transaction 0).isFinalized = false := by decide +kernel
  have status : (run.db.transaction 0).status = .errored := by decide +kernel
  have outer : (run.db.transaction 0).outer = [.committed, .pending] := by decide +kernel
  have obliging : run.db.backend.server.Obliging := ⟨by decide +kernel, by decide +kernel⟩
  have begun : run.tookUp 0 = false := by decide +kernel
  obtain ⟨answers, depth, _, undone, committed, _⟩ :=
    exits_decide .empty .standard _ rfl held unfinalized (fun took => by cases begun.symm.trans took)
      obliging (by decide +kernel : [ExitAction.commit, .rollback, .commit].length = _)
  have whole : (left.2.transaction 0).rolledBack = false := by
    apply Bool.eq_false_iff.mpr
    intro rolledBack
    obtain ⟨level, mem, uncommitted⟩ := undone.mp rolledBack
    rw [status, outer] at mem
    simp at mem
    exact uncommitted mem
  exact ⟨held, unfinalized, obliging, status, outer, answers, depth, by rw [committed, whole]; rfl⟩

end Run

end NestedTx
