import NestedTx.Proofs.Database.Moves

namespace NestedTx

open Database (Standing Apart Moved Born TakenUp)
open History

namespace Run

inductive Effect (run : Run) : Run → Prop
  | apart {db' : Database} (apart : Apart [] run.db db') : Effect run ⟨run.history, db'⟩
  | alone {db' : Database} {sql : String} (apart : Apart [sql] run.db db') :
    Effect run ⟨.alone sql :: run.history, db'⟩
  | born {db' : Database} {holder : Holder} (born : Born holder run.db db') :
    Effect run ⟨run.history, db'⟩
  | takenUp {db' : Database} {ref root : Nat} (takenUp : TakenUp ref root run.db db') :
    Effect run ⟨.takenUp ref root :: run.history, db'⟩
  | moved {db' : Database} {holder : Holder} {mark : Option Mark} {old new : Standing}
    (moved : Moved (statements holder run.history) holder mark run.db db' old new) :
    Effect run ⟨mark? holder mark run.history, db'⟩

structure Backed (run : Run) : Prop where
  tidy : run.db.Tidy
  holds : ∀ holder standing, run.db.standing holder = some standing →
    ∀ tx, standing.carrier = some tx → tx.Holds (statements holder run.history)

namespace Backed

variable {run : Run} {db' : Database} {ref : Nat}

theorem idle {action : Action} {result : Except DatabaseError Unit}
    (perform : action.perform run.db = (result, db')) (apart : Apart [] run.db db')
    (none : action.event? result run.db db' = none) : Effect run (run.step action) := by
  simp only [step, perform, none]
  exact .apart apart

theorem holds_root (h : run.Backed) {entry : Entry} (known : run.db.entries[ref]? = some entry) :
    ∀ tx, entry.transaction.carrier = some tx → tx.Holds (statements (.root ref) run.history) :=
  h.holds (.root ref) entry.transaction.standing (Database.standing_of_known known)

theorem holds_handOpened (h : run.Backed) {tx : ServerTransaction}
    (kept : run.db.serverTransaction? ref = some tx) :
    tx.Holds (statements (.handOpened ref) run.history) :=
  h.holds _ _ (Database.standing_handOpened kept) tx rfl

theorem call (h : run.Backed) (ref : Nat) (call : Transaction.Call) (params : List Json.Value) :
    Effect run (run.step (.call ref call params)) := by
  simp only [step, Action.perform]
  split
  · rename_i held
    obtain ⟨entry, known, handles⟩ := Database.exists_of_isHeld held
    obtain ⟨new, moved⟩ :=
      Database.perform_moved h.tidy known handles (h.holds_root known) call params
    have effect := Effect.moved moved
    rcases hp : run.db.perform call params ref with ⟨result, db'⟩
    rw [hp] at effect
    have hresult : call.mark? ((result.map fun _ => ()).mapError DatabaseError.transaction)
        run.db.backend.server.counters db'.backend.server.counters =
          call.mark? result run.db.backend.server.counters db'.backend.server.counters := by
      rw [Transaction.Call.mark?_mapError]
      cases result <;> rfl
    simp only [Database.tell, Action.event?, hresult]
    exact effect
  · simp only [Action.event?, Transaction.Call.mark?_error]
    exact .apart (.refl h.tidy)

theorem loss {holder : Holder} (old : Standing) {new : Standing} (gone : new.carrier = none)
    (moved : Moved (statements holder run.history) holder
      (if isLive old.carrier then some .undone else none) run.db db' old new) :
    Effect run ⟨(Action.loss? holder run.db db').toList ++ run.history, db'⟩ := by
  have effect := Effect.moved moved
  have hold : run.db.held holder = old.carrier := by simp [Database.held, moved.standing_old]
  have hnew : db'.held holder = none := by simp [Database.held, moved.standing_new, gone]
  have hlive : isLive none = false := rfl
  simp only [Action.loss?, hold, hnew, hlive]
  cases hl : isLive old.carrier <;> simpa [hl, mark?] using effect

theorem loss_apart {holder : Holder} (apart : Apart [] run.db db') :
    Effect run ⟨(Action.loss? holder run.db db').toList ++ run.history, db'⟩ := by
  have hsame : db'.held holder = run.db.held holder := by simp [Database.held, apart.standing]
  have hnone : Action.loss? holder run.db db' = none := by
    cases hl : isLive (run.db.held holder) <;> simp [Action.loss?, hsame, hl]
  rw [hnone]
  exact .apart apart

theorem drop (h : run.Backed) (ref : Nat) : Effect run (run.step (.drop ref)) := by
  simp only [step, Action.perform, Action.event?]
  rcases Database.drop_cases h.tidy ref with apart | ⟨entry, known, moves⟩
  · exact loss_apart apart
  · obtain ⟨new, gone, moved⟩ := moves _ (h.holds_root known)
    exact loss entry.transaction.standing gone moved

theorem letGo (h : run.Backed) (ref : Nat) : Effect run (run.step (.letGo ref)) := by
  simp only [step, Action.perform, Action.event?]
  cases kept : run.db.serverTransaction? ref with
  | none =>
    have he : run.db.letGo ref = run.db := by simp only [Database.letGo, kept]
    rw [he]
    exact loss_apart (.refl h.tidy)
  | some tx => exact loss ⟨some tx, none⟩ rfl (Database.letGo_moved h.tidy kept)

theorem finish (h : run.Backed) (action : ExitAction) (ref : Nat) :
    Effect run (run.step (.finish action ref)) := by
  simp only [step, Action.perform]
  cases kept : run.db.serverTransaction? ref with
  | none =>
    have he : run.db.finish action ref = (.error .closed, run.db) := by
      cases action <;> simp only [Database.finish, Database.serverCommit, Database.serverRollback, kept]
    rw [he]
    cases action <;> exact .apart (.refl h.tidy)
  | some tx =>
    obtain ⟨result, db', new, he, moved⟩ :=
      Database.finish_moved h.tidy kept (h.holds_handOpened kept) action
    have effect := Effect.moved moved
    rw [he]
    cases result <;> cases action <;> exact effect

theorem serverExecute (h : run.Backed) (ref : Nat) (sql : String) :
    Effect run (run.step (.serverExecute ref sql)) := by
  simp only [step, Action.perform]
  cases kept : run.db.serverTransaction? ref with
  | none =>
    have he : run.db.serverExecute ref sql = (.error .closed, run.db) := by
      simp only [Database.serverExecute, kept]
    rw [he]
    exact .apart (.refl h.tidy)
  | some tx =>
    obtain ⟨result, db', new, he, moved⟩ :=
      Database.serverExecute_moved h.tidy kept (h.holds_handOpened kept) sql
    have effect := Effect.moved moved
    rw [he]
    cases result <;> exact effect

theorem effect (h : run.Backed) (action : Action) : Effect run (run.step action) := by
  cases action with
  | begin =>
    simp only [step, Action.perform]
    rcases Database.begin_cases h.tidy with ⟨error, db', he, apart⟩ | ⟨_, _, db', he, _, _, born⟩
    · rw [he]
      exact .apart apart
    · rw [he]
      exact .born born
  | call ref call params => exact h.call ref call params
  | retain ref =>
    simp only [step, Action.perform]
    split
    · rename_i held
      exact .apart (Database.retain_apart h.tidy held)
    · exact .apart (.refl h.tidy)
  | drop ref => exact h.drop ref
  | expire ref openFor => exact idle rfl (Database.expire_apart h.tidy ref openFor) rfl
  | prune => exact idle rfl (Database.prune_apart h.tidy) rfl
  | execute sql params =>
    obtain ⟨result, db', he, apart⟩ := Database.execute_apart h.tidy sql params
    simp only [step, Action.perform, he]
    cases result with
    | error error => exact .apart apart
    | ok count => exact .alone apart
  | fetch sql params => exact idle rfl (Database.fetch_apart h.tidy sql params) rfl
  | ping target => exact idle rfl (Database.ping_apart h.tidy target) rfl
  | borrow => exact idle rfl (Database.borrow_apart h.tidy) rfl
  | attach => exact idle rfl (Database.attach_apart h.tidy) rfl
  | giveBack ref => exact idle rfl (Database.giveBack_apart h.tidy ref) rfl
  | executeOn ref sql =>
    obtain ⟨result, db', he, apart⟩ := Database.executeOn_apart h.tidy ref sql
    simp only [step, Action.perform, he]
    cases result with
    | error error => exact .apart apart
    | ok count => exact .alone apart
  | fetchOn ref sql => exact idle rfl (Database.fetchOn_apart h.tidy ref sql) rfl
  | beginOn ref =>
    simp only [step, Action.perform]
    rcases Database.beginOn_cases h.tidy ref with ⟨error, db', he, apart⟩ | ⟨db', he, born⟩
    · rw [he]
      exact .apart apart
    · rw [he]
      exact .born born
  | finish action ref => exact h.finish action ref
  | serverExecute ref sql => exact h.serverExecute ref sql
  | serverFetch ref sql => exact idle rfl (Database.serverFetch_apart h.tidy ref sql) rfl
  | letGo ref => exact h.letGo ref
  | takeUp ref id settings =>
    simp only [step, Action.perform]
    rcases Database.takeUp_cases h.tidy ref id settings with he | ⟨db', he, takenUp⟩
    · rw [he]
      exact .apart (.refl h.tidy)
    · rw [he]
      exact .takenUp takenUp
  | setFaults faults => exact idle rfl (Database.setFaults_apart h.tidy faults) rfl
  | answer sql rows => exact idle rfl (Database.answer_apart h.tidy sql rows) rfl

end Backed

end Run

end NestedTx
