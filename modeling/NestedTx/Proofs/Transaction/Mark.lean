import NestedTx.Proofs.Transaction.Call

/-!
What a call on a transaction means for the statements that wait on the server: one more waits, they
take effect, or they are lost. `mark?` reads this off the answer and the server's counters alone, and
`Step.served` says that nothing else happens.
-/

namespace NestedTx

open Server (Change)

inductive Mark
  | ran (sql : String)
  | committed
  | undone
deriving DecidableEq, Repr

namespace Mark

def isEnd : Mark → Bool
  | ran _ => false
  | committed => true
  | undone => true

def extend (texts : List String) : Option Mark → List String
  | some (ran sql) => texts ++ [sql]
  | _ => texts

def publish (texts : List String) : Option Mark → List String
  | some committed => texts
  | _ => []

end Mark

def ExitAction.mark : ExitAction → Mark
  | commit => .committed
  | rollback => .undone

theorem ExitAction.publish_mark (texts : List String) (action : ExitAction) :
    Mark.publish texts action.mark = action.published texts := by
  cases action <;> rfl

def isLive (held : Option ServerTransaction) : Bool := held.any fun tx => !tx.done

structure Served (texts : List String) (held : Option ServerTransaction) (backend : Backend)
    (mark : Option Mark) (held' : Option ServerTransaction) (backend' : Backend) : Prop where
  holds : ∀ tx, held' = some tx → tx.Holds (Mark.extend texts mark)
  clean : backend'.Clean
  journal : backend'.server.journal = backend.server.journal ++ Mark.publish texts mark
  live : isLive held' = true → isLive held = true
  acted : ∀ done, mark = some done → isLive held = true
  ended : ∀ done, mark = some done → done.isEnd = true → isLive held' = false

variable {texts : List String} {backend backend' : Backend}

theorem Served.idle {held : Option ServerTransaction}
    (holds : ∀ tx, held = some tx → tx.Holds texts) (clean : backend'.Clean) {commits rollbacks : Nat}
    (change : Change [] commits rollbacks backend.server backend'.server) :
    Served texts held backend none held backend' where
  holds := holds
  clean := clean
  journal := change.journal
  live := id
  acted := nofun
  ended := nofun

theorem Served.letGo (tx : ServerTransaction) (clean : backend.Clean) :
    Served texts (some tx) backend (if isLive (some tx) then some .undone else none) none
      (backend.release tx.connection) := by
  have hlive : isLive (some tx) = !tx.done := rfl
  have hc := clean.release tx.connection
  obtain ⟨rollbacks, change⟩ := Backend.release_change tx.connection backend
  constructor
  · exact nofun
  · exact hc
  · rw [change.journal, hlive]
    cases tx.done <;> rfl
  · exact nofun
  · intro done hm
    cases hd : tx.done with
    | true => simp [hlive, hd] at hm
    | false => simp [hlive, hd]
  · exact fun _ _ _ => rfl

namespace Transaction

/-- What a call shows to have happened on the server: it was answered well, and the server counted a
commit or a rollback. -/
def Call.mark? {ε : Type} (call : Call) (answer : Except ε Unit) (before after : Counters) :
    Option Mark :=
  match call, answer with
  | .execute sql, .ok _ => some (.ran sql)
  | _, .ok _ =>
    if before.commits < after.commits then some .committed
    else if before.rollbacks < after.rollbacks then some .undone
    else none
  | _, .error _ => none

@[simp] theorem Call.mark?_error {ε : Type} (call : Call) (error : ε) (before after : Counters) :
    call.mark? (.error error) before after = none := by
  cases call <;> rfl

@[simp] theorem Call.mark?_mapError {ε δ : Type} (call : Call) (f : ε → δ)
    (answer : Except ε Unit) (before after : Counters) :
    call.mark? (answer.mapError f) before after = call.mark? answer before after := by
  cases answer <;> cases call <;> rfl

theorem Call.mark?_eq_none {ε : Type} {call : Call} (other : ∀ sql, call ≠ .execute sql)
    (answer : Except ε Unit) {before after : Counters} (commits : after.commits = before.commits)
    (rollbacks : after.rollbacks = before.rollbacks) : call.mark? answer before after = none := by
  cases answer <;> cases call <;> simp_all [mark?]

theorem Call.mark?_eq_committed {ε : Type} {call : Call} (other : ∀ sql, call ≠ .execute sql)
    {before after : Counters} (commits : before.commits < after.commits) :
    call.mark? (.ok () : Except ε Unit) before after = some .committed := by
  cases call <;> simp_all [mark?]

theorem Call.mark?_eq_undone {ε : Type} {call : Call} (other : ∀ sql, call ≠ .execute sql)
    {before after : Counters} (commits : after.commits = before.commits)
    (rollbacks : before.rollbacks < after.rollbacks) :
    call.mark? (.ok () : Except ε Unit) before after = some .undone := by
  cases call <;> simp_all [mark?]

variable {tx tx' : Transaction}

structure Flagged (tx : Transaction) (mark : Option Mark) (tx' : Transaction) : Prop where
  committed : tx'.carrierCommitted = true ↔ tx.carrierCommitted = true ∨ mark = some .committed
  rolledBack : tx'.rolledBack = true ↔ tx.rolledBack = true ∨ mark = some .undone

theorem Flagged.of_running {mark : Option Mark}
    (running : ∀ end', mark = some end' → end'.isEnd = false)
    (committed : tx'.carrierCommitted = tx.carrierCommitted)
    (rolledBack : tx'.rolledBack = tx.rolledBack) : Flagged tx mark tx' := by
  have hc : mark ≠ some .committed := fun he => by simpa [Mark.isEnd] using running _ he
  have hr : mark ≠ some .undone := fun he => by simpa [Mark.isEnd] using running _ he
  constructor <;> simp [*]

theorem Flagged.idle (committed : tx'.carrierCommitted = tx.carrierCommitted)
    (rolledBack : tx'.rolledBack = tx.rolledBack) : Flagged tx none tx' :=
  .of_running nofun committed rolledBack

theorem Attempt.served (clean : backend.Clean)
    (holds : ∀ carrier, tx.carrier = some carrier → carrier.Holds texts) {action : ExitAction}
    {result : Except DriverError Unit} (attempt : Attempt action tx backend result tx' backend')
    {call : Call} (other : ∀ sql, call ≠ .execute sql) :
    Served texts tx.carrier backend
        (call.mark? result backend.server.counters backend'.server.counters) tx'.carrier backend' ∧
      Flagged tx (call.mark? result backend.server.counters backend'.server.counters) tx' := by
  cases attempt with
  | missing none =>
    rw [Call.mark?_error, setStatus_carrier]
    exact ⟨.idle holds clean (.refl _), .idle rfl rfl⟩
  | @refused carrier carrier' error _ some finish =>
    rcases (holds carrier some).finish_cases action backend with
      ⟨error, commits, rollbacks, server', he, change, _⟩ | ⟨server', he, _⟩
    · cases he.symm.trans finish
      rw [Call.mark?_error, setStatus_carrier, ← some]
      exact ⟨.idle holds clean change, .idle rfl rfl⟩
    · cases he.symm.trans finish
  | @done carrier carrier' _ some finish =>
    rcases (holds carrier some).finish_cases action backend with
      ⟨error, commits, rollbacks, server', he, change, _⟩ | ⟨server', he, change, hd⟩
    · cases he.symm.trans finish
    · cases he.symm.trans finish
      let ended : Backend := { backend with server := server' }
      have hended : ended.Clean := clean
      have hc := hended.release { carrier.connection with link := ⟨.none⟩ }
      obtain ⟨rollbacks, released⟩ :=
        Backend.release_change { carrier.connection with link := ⟨.none⟩ } ended
      have total := change.trans released
      have hmark : call.mark? (.ok () : Except DriverError Unit) backend.server.counters
          (ended.release { carrier.connection with link := ⟨.none⟩ }).server.counters =
            .some action.mark := by
        cases action with
        | commit =>
          exact Call.mark?_eq_committed other (by rw [total.commits]; simp [ExitAction.commits])
        | rollback =>
          exact Call.mark?_eq_undone other (by rw [total.commits]; simp [ExitAction.commits])
            (by rw [total.rollbacks]; simp only [ExitAction.rollbacks]; omega)
      rw [hmark, settle_carrier]
      refine ⟨⟨nofun, hc, ?_, nofun, fun _ _ => by simp [isLive, some, hd], fun _ _ _ => rfl⟩, ?_⟩
      · rw [total.journal, List.append_nil, action.publish_mark]
      · cases action <;> constructor <;> simp [settle, setStatus, ExitAction.mark]

theorem noted_served (clean : backend.Clean)
    (holds : ∀ carrier, tx.carrier = some carrier → carrier.Holds texts) {call : Call}
    (other : ∀ sql, call ≠ .execute sql) (carrier : tx'.carrier = tx.carrier)
    (committed : tx'.carrierCommitted = tx.carrierCommitted)
    (rolledBack : tx'.rolledBack = tx.rolledBack) :
    Served texts tx.carrier backend
        (call.mark? (.ok () : Except TransactionError Unit) backend.server.counters
          backend.server.counters) tx'.carrier backend ∧
      Flagged tx (call.mark? (.ok () : Except TransactionError Unit) backend.server.counters
        backend.server.counters) tx' := by
  rw [Call.mark?_eq_none other _ rfl rfl, carrier]
  exact ⟨.idle holds clean (.refl _), .idle committed rolledBack⟩

theorem Step.served (clean : backend.Clean)
    (holds : ∀ carrier, tx.carrier = some carrier → carrier.Holds texts) {call : Call}
    {answer : Except TransactionError Unit} (step : Step tx backend call answer tx' backend') :
    Served texts tx.carrier backend
        (call.mark? answer backend.server.counters backend'.server.counters) tx'.carrier backend' ∧
      Flagged tx (call.mark? answer backend.server.counters backend'.server.counters) tx' := by
  cases step with
  | lateForAll | lateForRoot | lateForLevel | lateForCommit | barred | closed =>
    rw [Call.mark?_error]
    exact ⟨.idle holds clean (.refl _), .idle rfl rfl⟩
  | entered => exact noted_served clean holds nofun (push_carrier tx) rfl rfl
  | noted => exact noted_served clean holds nofun rfl rfl rfl
  | left =>
    exact noted_served clean holds nofun (pop_carrier tx) (pop_carrierCommitted tx)
      (pop_rolledBack tx)
  | committing undecided root attempt =>
    rw [Call.mark?_mapError]
    exact attempt.served clean holds nofun
  | rollingBack whole uncommitted attempt =>
    rw [Call.mark?_mapError]
    exact attempt.served clean holds nofun
  | @leaving action result left _ whole uncommitted root attempt =>
    have other : ∀ sql, Call.exit action ≠ .execute sql := nofun
    obtain ⟨served, flagged⟩ := attempt.served clean holds other
    rw [Call.mark?_mapError, pop_carrier]
    exact ⟨served, by simpa using flagged.committed, by simpa using flagged.rolledBack⟩
  | @executed carrier carrier' sql result _ some free run =>
    rw [Call.mark?_mapError]
    rcases (holds carrier some).execute_cases sql backend with
      ⟨error, server', he, change⟩ | ⟨count, carried, server', he, change, hh, hl, hd⟩
    · cases he.symm.trans run
      rw [← some]
      exact ⟨.idle holds clean change, .idle rfl rfl⟩
    · cases he.symm.trans run
      have live : isLive tx.carrier = true := by simp [isLive, some, hd]
      refine ⟨⟨?_, clean, change.journal, fun _ => live, fun _ _ => live, ?_⟩, .of_running ?_ rfl rfl⟩
      · rintro _ ⟨⟩
        exact hh
      · rintro _ ⟨⟩ ⟨⟩
      · rintro _ ⟨⟩
        rfl
  | @fetched carrier sql result _ some free run =>
    obtain ⟨pool, change⟩ := carrier.fetch_change sql backend
    rw [run] at pool change
    have other : ∀ sql', Call.fetch sql ≠ .execute sql' := nofun
    rw [Call.mark?_mapError, Call.mark?_eq_none other _ change.commits change.rollbacks]
    exact ⟨.idle holds (fun idle hm => clean idle (pool ▸ hm)) change, .idle rfl rfl⟩

theorem perform_served (tx : Transaction) (clean : backend.Clean)
    (holds : ∀ carrier, tx.carrier = some carrier → carrier.Holds texts) (call : Call) :
    Served texts tx.carrier backend
        (call.mark? (call.perform tx backend).1 backend.server.counters
          (call.perform tx backend).2.2.server.counters)
        (call.perform tx backend).2.1.carrier (call.perform tx backend).2.2 ∧
      Flagged tx (call.mark? (call.perform tx backend).1 backend.server.counters
        (call.perform tx backend).2.2.server.counters) (call.perform tx backend).2.1 :=
  (tx.perform_step backend call).served clean holds

end Transaction

end NestedTx
