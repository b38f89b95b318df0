import NestedTx.Proofs.Database.Block
import NestedTx.Proofs.Database.Failures
import NestedTx.Proofs.Database.WithTransaction

namespace NestedTx

open History

theorem Transaction.Call.extend_mark? {ε : Type} {call : Call} (other : ∀ sql, call ≠ .execute sql)
    (texts : List String) (answer : Except ε Unit) (before after : Counters) :
    Mark.extend texts (call.mark? answer before after) = texts := by
  cases answer with
  | error error => rw [mark?_error]; rfl
  | ok =>
    cases call with
    | execute sql => exact absurd rfl (other sql)
    | begin | commit | rollback | exit | fetch =>
      simp only [mark?]
      split
      · rfl
      · split <;> rfl

theorem Scope.close_of_rollback {ε α : Type} (ofError : TransactionError → ε) {ending : Ending ε α}
    (fails : ending.action = .rollback) (scope : Scope) (db : Database) :
    scope.close ofError ending db = (ending, (scope.finishAs .rollback db).2) := by
  cases ending with
  | ok => cases fails
  | error | panic => rfl

namespace Run

variable {run : Run} {ref : Nat} {entry : Entry} {before : List String}

theorem statements_call (run : Run) (ref : Nat) {call : Transaction.Call}
    (other : ∀ sql, call ≠ .execute sql) (params : List Json.Value) :
    statements (.root ref) (run.step (.call ref call params)).history =
      statements (.root ref) run.history := by
  have marked : (run.step (.call ref call params)).history = mark? (.root ref) _ run.history := rfl
  rw [marked, statements_mark?, Transaction.Call.extend_mark? other]

theorem statements_drop (run : Run) (ref : Nat) :
    statements (.root ref) (run.step (.drop ref)).history = statements (.root ref) run.history := by
  rw [history_step]
  simp only [Action.event?, Action.loss?]
  split
  · exact statements_mark? (.root ref) (some .undone) run.history
  · rfl

def fail (ref : Nat) : List Action := [.call ref (.exit .rollback) [], .drop ref]

theorem enterNested_eq {carrier : ServerTransaction} (known : run.db.entries[ref]? = some entry)
    (handles : 0 < entry.handles) (sound : entry.transaction.Sound)
    (unspent : entry.transaction.carrier = some carrier) :
    run.db.enterNested ref = (.ok ⟨ref, .rollback⟩, (run.step (.call ref .begin [])).db) := by
  obtain ⟨uncommitted, whole⟩ := sound.flags_of_carrier unspent
  have begun : Transaction.Call.begin.perform entry.transaction run.db.backend =
      (.ok (), entry.transaction.push, run.db.backend) := by
    simp [Transaction.Call.perform, Transaction.begin, whole, uncommitted]
  obtain ⟨db', did, _⟩ := Database.perform_known known [] begun
  have held : run.db.isHeld ref = true := by simp [Database.isHeld, known, handles]
  replace did : run.db.beginNested ref = (.ok (), db') := did
  have entered : (run.step (.call ref .begin [])).db = (run.db.beginNested ref).2 :=
    Database.perform_of_held held .begin []
  rw [entered, Database.enterNested, did]

theorem nested_eq {closed : Run} {carrier : ServerTransaction}
    (known : run.db.entries[ref]? = some entry) (handles : 0 < entry.handles)
    (sound : entry.transaction.Sound) (unspent : entry.transaction.carrier = some carrier) {ε α : Type}
    (ofError : TransactionError → ε) {block : Nat → Database → Ending ε α × Database}
    {ending : Ending ε α} (ends : block ref (run.step (.call ref .begin [])).db = (ending, closed.db))
    (fails : ending.action = .rollback) (held : closed.db.isHeld ref = true) :
    run.db.nested ofError ref block = (ending, (closed.steps (fail ref)).db) := by
  let scope : Scope := ⟨ref, .rollback⟩
  have left : (scope.finishAs .rollback closed.db).2 = (closed.steps (fail ref)).db :=
    (Scope.finishAs_eq held .rollback).trans (closed.db_steps (fail ref)).symm
  rw [Database.nested, enterNested_eq known handles sound unspent]
  simp only [Database.runIn, ends, Scope.close_of_rollback ofError fails]
  rw [left]

theorem Consistent.failed (h : run.Consistent before) (known : run.db.entries[ref]? = some entry)
    (sound : entry.transaction.Sound) (kept : 2 ≤ entry.handles) :
    ∃ entry', (run.steps (fail ref)).db.entries[ref]? = some entry' ∧ 0 < entry'.handles ∧
      entry'.transaction.Sound ∧
      (isLive entry'.transaction.carrier = true ↔ isLive entry.transaction.carrier = true ∧
        (entry.transaction.status = .committed ∨ run.db.backend.server.faults.rollback = true)) ∧
      statements (.root ref) (run.steps (fail ref)).history = statements (.root ref) run.history := by
  obtain ⟨tx, handles⟩ := entry
  obtain ⟨handles, rfl⟩ := Nat.exists_eq_add_of_le' kept
  have held : run.db.isHeld ref = true := by simp [Database.isHeld, known]
  have step := tx.perform_step run.db.backend (.exit .rollback)
  rcases exits : (Transaction.Call.exit .rollback).perform tx run.db.backend with ⟨answer, tx', backend'⟩
  rw [exits] at step
  obtain ⟨db', did, known', _⟩ := Database.perform_known known [] exits
  have left : (run.step (.call ref (.exit .rollback) [])).db = db' :=
    (Database.perform_of_held held (.exit .rollback) []).trans (congrArg Prod.snd did)
  rw [← left] at known'
  obtain ⟨dropped, _⟩ := Database.drop_of_more known'
  have other (sql : String) : Transaction.Call.exit .rollback ≠ .execute sql := by rintro ⟨⟩
  exact ⟨_, dropped, Nat.succ_pos _, sound.step step, step.live_of_exit sound (h.backed.holds_root known),
    (statements_drop _ ref).trans (statements_call run ref other [])⟩

def failCommitted (ref : Nat) (db : Database) : Ending Unit Unit × Database :=
  match db.execute (.transaction ref) "DELETE FROM t" [] with
  | (_, db) =>
    match db.commit ref with
    | (_, db) => (.error (), db)

def failCommittedActions (ref : Nat) : List Action :=
  [.call ref (.execute "DELETE FROM t") [], .call ref .commit []]

theorem failCommitted_eq (held : run.db.isHeld ref = true) :
    failCommitted ref run.db = (.error (), (run.steps (failCommittedActions ref)).db) := by
  have executed := Database.perform_of_held held (.execute "DELETE FROM t") []
  have heldThen := Database.held_perform held (.execute "DELETE FROM t") []
  rw [Database.perform_execute_db] at executed heldThen
  have committed := Database.perform_of_held heldThen .commit []
  simp only [db_steps, failCommittedActions, Database.after, List.foldl_cons, List.foldl_nil, executed,
    committed]
  simp only [failCommitted, Database.perform]

/-- A nested block that fails asks for a rollback of the whole transaction. That is not carried out if
the block had committed its level, or if the server refuses it. If the transaction was open at the end
of the block, then those who hold it can still commit it, and that publishes what was run before. -/
theorem nested_failed (server : Server) (settings : Settings) (earlier actions : List Action)
    {run closed : Run} (reached : (start server settings).steps earlier = run) {ref : Nat}
    (held : run.db.isHeld ref = true) (unfinalized : (run.db.transaction ref).isFinalized = false)
    (ran : (run.step (.call ref .begin [])).steps actions = closed) {ε α : Type}
    (ofError : TransactionError → ε) (block : Nat → Database → Ending ε α × Database)
    (ending : Ending ε α)
    (ends : block ref (run.step (.call ref .begin [])).db = (ending, closed.db))
    (fails : ending.action = .rollback) (kept : 2 ≤ closed.db.handles ref) :
    let after := closed.steps (fail ref)
    run.db.nested ofError ref block = (ending, after.db) ∧
      ((∃ later, after.CommitsBy ref later) ↔ isLive (closed.db.held (.root ref)) = true ∧
        ((closed.db.transaction ref).status = .committed ∨
          closed.db.backend.server.faults.rollback = true)) ∧
      ∀ later, after.CommitsBy ref later → ∃ between rest,
        (after.steps later).db.backend.server.journal = after.db.backend.server.journal ++ between ++
          statements (.root ref) closed.history ++ rest := by
  intro after
  obtain ⟨entry, carrier, known, handles, sound, unspent, _⟩ := exists_carrier reached held unfinalized
  have hsteps : (start server settings).steps (earlier ++ .call ref .begin [] :: actions) = closed := by
    rw [steps_append, reached]
    exact ran
  have h : closed.Consistent server.journal := hsteps ▸ (start_consistent server settings).steps _
  have heldThen : closed.db.isHeld ref = true :=
    Database.isHeld_iff.mpr (Nat.lt_of_lt_of_le Nat.two_pos kept)
  obtain ⟨entryThen, knownThen, handlesThen⟩ := Database.exists_of_isHeld heldThen
  have soundThen : entryThen.transaction.Sound := (hsteps ▸ start_sound server settings _)
    entryThen (List.mem_of_getElem? knownThen) handlesThen
  rw [Database.handles_of_known knownThen] at kept
  obtain ⟨entry', known', handles', sound', live, same⟩ := h.failed knownThen soundThen kept
  have hafter : after.Consistent server.journal := h.steps (fail ref)
  refine ⟨nested_eq known handles sound unspent ofError ends fails heldThen, ?_, ?_⟩
  · rw [hafter.exists_commitsBy_iff known' handles' sound', live, Database.held_of_known knownThen,
      Database.transaction_of_known knownThen]
  · intro later commits
    obtain ⟨between, rest, journal⟩ := hafter.journal_of_commitsBy known' commits
    rw [same] at journal
    exact ⟨between, rest, journal⟩

theorem nested_failed_committed :
    let run := (start .empty .standard).step .begin
    let closed := (run.step (.call 0 .begin [])).steps (failCommittedActions 0)
    run.db.isHeld 0 = true ∧ (run.db.transaction 0).isFinalized = false ∧ 2 ≤ closed.db.handles 0 ∧
      run.db.nested (fun _ => ()) 0 failCommitted = (.error (), (closed.steps (fail 0)).db) ∧
      ∃ later between rest, ((closed.steps (fail 0)).steps later).db.backend.server.journal =
        (closed.steps (fail 0)).db.backend.server.journal ++ between ++ ["DELETE FROM t"] ++ rest := by
  intro run closed
  have reached : (start .empty .standard).steps [.begin] = run := rfl
  have held : run.db.isHeld 0 = true := by decide +kernel
  have unfinalized : (run.db.transaction 0).isFinalized = false := by decide +kernel
  have kept : 2 ≤ closed.db.handles 0 := by decide +kernel
  have ran : (run.step (.call 0 .begin [])).steps (failCommittedActions 0) = closed := rfl
  have ends : failCommitted 0 (run.step (.call 0 .begin [])).db = (.error (), closed.db) :=
    failCommitted_eq (by decide +kernel)
  obtain ⟨answer, open_iff, published⟩ := nested_failed .empty .standard [.begin]
    (failCommittedActions 0) reached held unfinalized ran (fun _ => ()) failCommitted (.error ()) ends rfl
    kept
  have committed : (closed.db.transaction 0).status = .committed := by decide +kernel
  have waiting : statements (.root 0) closed.history = ["DELETE FROM t"] := by decide +kernel
  obtain ⟨later, commits⟩ := open_iff.mpr ⟨by decide +kernel, .inl committed⟩
  obtain ⟨between, rest, journal⟩ := published later commits
  rw [waiting] at journal
  exact ⟨held, unfinalized, kept, answer, later, between, rest, journal⟩

theorem failCommitted_published :
    let db := (Database.on .empty .standard).begin.2
    let failed := db.nested (fun _ => ()) 0 failCommitted
    (failed.1 matches .error _) = true ∧ failed.2.backend.server.faults = .none ∧
      failed.2.backend.server.counters.executes = 1 ∧
      failed.2.backend.server.counters.rollbacks = 0 ∧ failed.2.backend.server.journal = [] ∧
      (failed.2.commit 0).2.backend.server.counters.commits = 1 ∧
      (failed.2.commit 0).2.backend.server.journal = ["DELETE FROM t"] := by
  decide +kernel

end Run

end NestedTx
