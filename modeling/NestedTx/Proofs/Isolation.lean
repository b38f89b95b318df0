import NestedTx.Proofs.Database.Journal
import NestedTx.Proofs.Database.Turns
import NestedTx.Proofs.Session
import NestedTx.Proofs.Transaction.Finality

namespace NestedTx

open History

theorem Backend.release_inTurn {connection : Connection} {backend : Backend}
    (asks : (backend.release connection).server.counters.rollbacks ≠
      backend.server.counters.rollbacks) :
    tells DriverError.isOutOfTurn (connection.link.rollback backend.server).1 = false := by
  rw [Link.rollback_outOfTurn]
  cases opened : connection.link.inTransaction with
  | true => rfl
  | false =>
    refine absurd ?_ asks
    simp only [release, opened, Bool.false_eq_true, if_false, giveBack_server]

theorem Transaction.Step.of_execute {tx tx' : Transaction} {backend backend' : Backend}
    {texts : List String} {sql : String} {answer : Except TransactionError Unit}
    (step : Step tx backend (.execute sql) answer tx' backend')
    (holds : ∀ carrier, tx.carrier = some carrier → carrier.Holds texts) :
    backend'.server.journal = backend.server.journal ∧
      ((∃ error, answer = .error error) ∧ tx'.carrier = tx.carrier ∨
        answer = .ok () ∧ barred? sql = none ∧ ∃ carrier, tx.carrier = some carrier ∧
          carrier.done = false ∧ carrier.connection.link.pending = some texts ∧
          tx'.carrier = some (carrier.waiting (texts ++ [sql]))) := by
  cases step with
  | lateForAll late asks => simp at asks
  | lateForLevel whole late asks => simp at asks
  | barred bar asks => exact ⟨rfl, .inl ⟨⟨_, rfl⟩, rfl⟩⟩
  | closed none asks => exact ⟨rfl, .inl ⟨⟨_, rfl⟩, rfl⟩⟩
  | @executed carrier _ _ _ _ some free run =>
    rcases (holds carrier some).execute_eq sql backend with
      ⟨error, server', he, change⟩ | ⟨count, server', he, change, waiting, pending⟩
    · cases he.symm.trans run
      refine ⟨?_, .inl ⟨⟨_, rfl⟩, some.symm⟩⟩
      rw [change.journal, List.append_nil]
    · cases he.symm.trans run
      refine ⟨?_, .inr ⟨rfl, free, carrier, some, waiting, pending, rfl⟩⟩
      rw [change.journal, List.append_nil]

def Action.direct? : Action → Option String
  | .execute sql _ => some sql
  | .executeOn _ sql => some sql
  | _ => none

namespace Database

variable {db db' : Database} {ref : Nat} {entry : Entry}

theorem held_of_set (known : db.entries[ref]? = some entry) {entry' : Entry}
    (set : db'.entries = db.entries.set ref entry') :
    db'.held (.root ref) = entry'.transaction.carrier := by
  obtain ⟨hlt, _⟩ := List.getElem?_eq_some_iff.mp known
  apply held_of_known
  rw [set]
  exact List.getElem?_set_self hlt

end Database

namespace Run

variable {run : Run} {before : List String}

def Waits (run : Run) (action : Action) (ref : Nat) (sql : String) : Prop :=
  let answer := (action.perform run.db).1
  let after := (run.step action).db
  after.backend.server.journal = run.db.backend.server.journal ∧
    (answer.toBool = false → after.held (.root ref) = run.db.held (.root ref)) ∧
    (answer.toBool = true → barred? sql = none ∧ ∃ tx texts,
      run.db.held (.root ref) = some tx ∧ tx.done = false ∧
        tx.connection.link.pending = some texts ∧
        after.held (.root ref) = some (tx.waiting (texts ++ [sql])))

def TakesEffect (run : Run) (action : Action) (sql : String) : Prop :=
  let answer := (action.perform run.db).1
  let after := (run.step action).db
  after.backend.server.journal =
      run.db.backend.server.journal ++ (if answer.toBool then [sql] else []) ∧
    ∀ holder, after.held holder = run.db.held holder

structure Isolates (run : Run) (action : Action) : Prop where
  inTurn : tells DatabaseError.isOutOfTurn (action.perform run.db).1 = false
  waits : ∀ ref sql params, action = .call ref (.execute sql) params → run.Waits action ref sql
  takesEffect : ∀ sql, action.direct? = some sql → run.TakesEffect action sql

def Controlled (run : Run) : Prop :=
  ∀ ref sql, .marked (.root ref) (.ran sql) ∈ run.history → barred? sql = none

namespace Backed

theorem pending_iff (h : run.Backed) {holder : Holder} {tx : ServerTransaction}
    (held : run.db.held holder = some tx) : tx.connection.link.pending = none ↔ tx.done = true := by
  obtain ⟨standing, stands, keeps⟩ := Option.bind_eq_some_iff.mp held
  have holds := h.holds holder standing stands tx keeps
  rw [ServerTransaction.Holds] at holds
  rw [holds]
  cases tx.done <;> simp

theorem waits (h : run.Backed) (ref : Nat) (sql : String) (params : List Json.Value) :
    run.Waits (.call ref (.execute sql) params) ref sql := by
  simp only [Waits, db_step]
  by_cases held : run.db.isHeld ref = true
  · obtain ⟨entry, known, _⟩ := Database.exists_of_isHeld held
    obtain ⟨alarms, performed⟩ := Database.perform_eq known (.execute sql) params
    obtain ⟨journal, which⟩ :=
      (entry.transaction.perform_step run.db.backend (.execute sql)).of_execute (h.holds_root known)
    generalize (Transaction.Call.execute sql).perform entry.transaction run.db.backend = did
      at performed journal which
    have acted : (Action.call ref (.execute sql) params).perform run.db =
        Database.tell .transaction (run.db.perform (.execute sql) params ref) := by
      simp only [Action.perform, if_pos held]
    generalize run.db.perform (.execute sql) params ref = after at performed acted
    have carries : after.2.held (.root ref) = did.2.1.carrier := by
      apply @Database.held_of_set _ _ _ _ known ⟨did.2.1, _⟩
      rw [performed]
    have published : after.2.backend.server.journal = run.db.backend.server.journal := by
      rw [performed]
      exact journal
    have answered : after.1 = did.1 := congrArg Prod.fst performed
    rw [acted, Database.tell, answered, carries, Database.held_of_known known]
    refine ⟨published, ?_⟩
    rcases which with ⟨⟨error, refused⟩, same⟩ | ⟨ran, free, carrier, some, waiting, pending, new⟩
    · rw [refused]
      exact ⟨fun _ => same, fun ran => by cases ran⟩
    · rw [ran]
      exact ⟨fun failed => (by cases failed),
        fun _ => ⟨free, carrier, _, some, waiting, pending, new⟩⟩
  · have refused : (Action.call ref (.execute sql) params).perform run.db =
        (.error .noTransaction, run.db) := by
      simp only [Action.perform, held]
      rfl
    rw [refused]
    exact ⟨rfl, fun _ => rfl, fun ran => by cases ran⟩

theorem takesEffect (h : run.Backed) {action : Action} {sql : String}
    (direct : action.direct? = some sql) : run.TakesEffect action sql := by
  have same {db' : Database} {texts : List String} (apart : Database.Apart texts run.db db')
      (holder : Holder) : db'.held holder = run.db.held holder := by
    simp only [Database.held, apart.standing]
  simp only [TakesEffect, db_step]
  cases action with
  | execute sql' params =>
    cases direct
    obtain ⟨result, db', did, apart⟩ := Database.execute_apart h.tidy sql params
    simp only [Action.perform, did, Database.tell]
    refine ⟨?_, same apart⟩
    rw [apart.journal]
    cases result <;> rfl
  | executeOn ref sql' =>
    cases direct
    obtain ⟨result, db', did, apart⟩ := Database.executeOn_apart h.tidy ref sql
    simp only [Action.perform, did, Database.tell]
    refine ⟨?_, same apart⟩
    rw [apart.journal]
    cases result <;> rfl
  | _ => cases direct

theorem isolates (h : run.Backed) (action : Action) : run.Isolates action where
  inTurn := h.inTurn action
  waits ref sql params asks := by
    rw [asks]
    exact h.waits ref sql params
  takesEffect _ direct := h.takesEffect direct

end Backed

end Run

theorem Transaction.Call.of_ran {ε : Type} {call : Call} {answer : Except ε Unit}
    {before after : Counters} {sql : String} (ran : call.mark? answer before after = some (.ran sql)) :
    call = .execute sql ∧ answer.toBool = true := by
  cases answer with
  | error error =>
    rw [mark?_error] at ran
    cases ran
  | ok =>
    cases call with
    | execute sql' =>
      cases ran
      exact ⟨rfl, rfl⟩
    | begin | commit | rollback | exit action | fetch sql' =>
      simp only [mark?] at ran
      split at ran
      · cases ran
      · split at ran <;> cases ran

theorem Action.of_ran {action : Action} {result : Except DatabaseError Unit} {before after : Database}
    {ref : Nat} {sql : String}
    (ran : action.event? result before after = some (.marked (.root ref) (.ran sql))) :
    (∃ params, action = .call ref (.execute sql) params) ∧ result.toBool = true := by
  have kept {holder : Holder} (lost : Action.loss? holder before after =
      some (.marked (.root ref) (.ran sql))) : False := by
    unfold Action.loss? at lost
    split at lost <;> cases lost
  cases action with
  | call ref' call params =>
    obtain ⟨mark, marked, same⟩ := Option.map_eq_some_iff.mp ran
    cases same
    obtain ⟨rfl, ok⟩ := Transaction.Call.of_ran marked
    exact ⟨⟨params, rfl⟩, ok⟩
  | drop ref' => exact (kept ran).elim
  | letGo ref' => exact (kept ran).elim
  | finish action ref' => cases action <;> cases result <;> cases ran
  | _ => cases result <;> cases ran

namespace History

theorem mem_statements {holder : Holder} {history : List Event} {sql : String}
    (mem : sql ∈ statements holder history) : .marked holder (.ran sql) ∈ history ∨
      ∃ hand ref past later, holder = .root ref ∧ history = later ++ .takenUp hand ref :: past ∧
        sql ∈ statements (.handOpened hand) past := by
  have pass {event : Event} {past : List Event}
      (h : .marked holder (.ran sql) ∈ past ∨ ∃ hand ref past' later, holder = .root ref ∧
        past = later ++ .takenUp hand ref :: past' ∧ sql ∈ statements (.handOpened hand) past') :
      .marked holder (.ran sql) ∈ event :: past ∨ ∃ hand ref past' later, holder = .root ref ∧
        event :: past = later ++ .takenUp hand ref :: past' ∧
          sql ∈ statements (.handOpened hand) past' := by
    rcases h with ran | ⟨hand, ref, past', later, root, rfl, mem⟩
    · exact .inl (List.mem_cons_of_mem _ ran)
    · exact .inr ⟨hand, ref, past', event :: later, root, rfl, mem⟩
  induction history with
  | nil => cases mem
  | cons event past ih =>
    cases event with
    | alone sql' => exact pass (ih mem)
    | marked other mark =>
      simp only [statements, marks] at mem
      split at mem
      · rename_i same
        subst same
        cases mark with
        | ran sql' =>
          rcases List.mem_append.mp mem with mem | mem
          · exact pass (ih mem)
          · rw [List.mem_singleton.mp mem]
            exact .inl List.mem_cons_self
        | committed | undone => exact pass (ih mem)
      · exact pass (ih mem)
    | takenUp hand ref =>
      simp only [statements, marks] at mem
      split at mem
      · rename_i root
        exact .inr ⟨hand, ref, past, [], root, rfl, mem⟩
      · exact pass (ih mem)

end History

namespace Run

variable {run : Run} {before : List String}

theorem Controlled.step (h : run.Controlled) (backed : run.Backed) (action : Action) :
    (run.step action).Controlled := by
  intro ref sql mem
  rcases List.mem_append.mp mem with mem | mem
  · obtain ⟨⟨params, rfl⟩, ok⟩ := Action.of_ran (Option.mem_toList.mp mem)
    exact ((backed.waits ref sql params).2.2 ok).1
  · exact h ref sql mem

theorem Consistent.controlled_steps (h : run.Consistent before) (controlled : run.Controlled)
    (actions : List Action) : (run.steps actions).Controlled := by
  induction actions generalizing run with
  | nil => exact controlled
  | cons action actions ih =>
    exact ih (h.effect (h.backed.effect action)) (controlled.step h.backed action)

theorem Consistent.uncontrolled (h : run.Consistent before) (controlled : run.Controlled) {ref : Nat}
    {tx : ServerTransaction} (held : run.db.held (.root ref) = some tx) {texts : List String}
    (pending : tx.connection.link.pending = some texts) {sql : String} (mem : sql ∈ texts) :
    kindOf sql ≠ .ok .transactionControl ∨
      ∃ hand past later, run.history = later ++ .takenUp hand ref :: past ∧
        sql ∈ statements (.handOpened hand) past := by
  obtain ⟨standing, stands, keeps⟩ := Option.bind_eq_some_iff.mp held
  have holds := h.backed.holds _ standing stands tx keeps
  rw [ServerTransaction.Holds, pending] at holds
  have same : texts = statements (.root ref) run.history := by
    split at holds <;> cases holds
    rfl
  rw [same] at mem
  rcases mem_statements mem with ran | ⟨hand, ref', past, later, root, split, mem⟩
  · obtain ⟨kind, known, other⟩ := barred?_eq_none_iff.mp (controlled ref sql ran)
    refine .inl fun control => other ?_
    rw [known] at control
    cases control
    rfl
  · cases root
    exact .inr ⟨hand, past, later, split, mem⟩

end Run

namespace Session

/-- Through a whole session a connection has an open transaction exactly while an unfinished transaction
holds it, and nobody calls the server out of turn. What is run in a transaction waits on its own
connection, and what is run elsewhere takes effect at once. No transaction runs what controls
transactions, and none is touched by requests that are about another. -/
theorem isolation (server : Server) (settings : Settings) (requests : List Request) :
    let first := Session.start server settings
    let session := first.steps requests
    let run := (Run.start server settings).steps (first.actionsOf requests)
    let db := session.db
    run.db = db ∧
      (∀ idle ∈ db.backend.pool.idle, idle.2.pending = none) ∧
      (∀ ref connection, db.connection? ref = some connection → connection.link.pending = none) ∧
      (∀ holder tx, db.held holder = some tx →
        (tx.connection.link.pending = none ↔ tx.done = true)) ∧
      (∀ connection backend, (Backend.release connection backend).server.counters.rollbacks ≠
          backend.server.counters.rollbacks →
        tells DriverError.isOutOfTurn (connection.link.rollback backend.server).1 = false) ∧
      (∀ ref tx texts, db.held (.root ref) = some tx → tx.connection.link.pending = some texts →
        ∀ sql ∈ texts, kindOf sql ≠ .ok .transactionControl ∨
          ∃ hand past later, run.history = later ++ .takenUp hand ref :: past ∧
            sql ∈ statements (.handOpened hand) past) ∧
      ∀ request, (session.step request).db = db.after (session.actions request) ∧
        (∀ past action later, session.actions request = past ++ action :: later →
          (run.steps past).Isolates action) ∧
        ∀ other entry, session.about request ≠ some other → db.entries[other]? = some entry →
          (session.step request).db.entries[other]? = some entry := by
  intro first session run db
  have begins := Run.start_consistent server settings
  have consistent : run.Consistent server.journal := begins.steps _
  have controlled : run.Controlled := begins.controlled_steps nofun _
  obtain ⟨made, sound⟩ := (Sound.start server settings).steps requests
  have same : run.db = db := (Run.db_steps _ _).trans made.symm
  have tidy := consistent.tidy
  rw [same] at tidy
  refine ⟨same, tidy.clean, tidy.free, fun holder tx held => ?_, fun _ _ => Backend.release_inTurn,
    fun ref tx texts held pending sql mem => ?_, fun request => ⟨(sound.step request).1,
      fun past action later _ => ?_, fun other entry ne known => ?_⟩⟩
  · rw [← same] at held
    exact consistent.backed.pending_iff held
  · rw [← same] at held
    exact consistent.uncontrolled controlled held pending mem
  · exact (consistent.steps past).backed.isolates action
  · exact sound.entries_other ne known

example :
    let session := (start .empty .standard).steps
      [.openConsole, .line 0 "begin", .line 0 "DELETE FROM t", .act (.execute "DELETE FROM u" [])]
    session.db.backend.server.journal = ["DELETE FROM u"] ∧
      (session.db.held (.root 0)).map (·.connection.link.pending) = some (some ["DELETE FROM t"]) := by
  decide +kernel

end Session

end NestedTx
