import NestedTx.Proofs.Console.Lines
import NestedTx.Proofs.Isolation

namespace NestedTx

open History

variable {sql : String}

theorem barred?_of_control (control : kindOf sql = .ok .transactionControl) :
    barred? sql = some (.control (Text.trim sql)) := by
  simp only [barred?, control]

def Target.passes : Target → Database → Bool
  | .transaction _, _ => false
  | .connection ref, db => (db.connection? ref).isSome
  | .database, db => db.backend.checkout.1.toBool

namespace Link

theorem executes_execute (sql : String) (link : Link) (server : Server) :
    (link.execute sql server).2.2.counters.executes = server.counters.executes + 1 := by
  simp only [execute]
  cases Server.statementCount sql with
  | error error => rfl
  | ok count => cases link.pending <;> rfl

theorem queries_fetch (sql : String) (link : Link) (server : Server) :
    (link.fetch sql server).2.counters.queries = server.counters.queries + 1 := by
  simp only [fetch]
  cases Server.statementCount sql <;> rfl

end Link

/-- Between two states of a server no statement was sent to it, and no query. -/
structure Server.Unasked (server server' : Server) : Prop where
  executes : server'.counters.executes = server.counters.executes
  queries : server'.counters.queries = server.counters.queries

namespace Backend

open Server (Unasked)

theorem unasked_checkout (backend : Backend) : Unasked backend.server backend.checkout.2.server := by
  simp only [checkout]
  split
  · exact ⟨rfl, rfl⟩
  · split
    · exact ⟨rfl, rfl⟩
    · simp only [Server.connect]
      by_cases refuses : backend.server.faults.connect = true
      · rw [if_pos refuses]
        exact ⟨rfl, rfl⟩
      · rw [if_neg refuses]
        exact ⟨rfl, rfl⟩

theorem unasked_release (connection : Connection) (backend : Backend) :
    Unasked backend.server (backend.release connection).server := by
  have rollback : Unasked backend.server (connection.link.rollback backend.server).2.2 := by
    simp only [Link.rollback]
    cases connection.link.pending with
    | none => exact ⟨rfl, rfl⟩
    | some texts =>
      dsimp only
      split <;> exact ⟨rfl, rfl⟩
  simp only [release]
  split
  · split <;> rename_i asked <;> rw [asked] at rollback
    · rw [discard_server]
      exact rollback
    · rw [giveBack_server]
      exact rollback
  · rw [giveBack_server]
    exact ⟨rfl, rfl⟩

end Backend

namespace Database

theorem update_self (ref : Nat) (db : Database) :
    db.update ref (db.transaction ref) db.backend = db := by
  have same : db.entries.modify ref (fun entry => { entry with transaction := db.transaction ref }) =
      db.entries := by
    cases known : db.entries[ref]? with
    | none => exact List.modify_eq_self (List.getElem?_eq_none_iff.mp known)
    | some entry =>
      rw [modify_of_known known, transaction_of_known known]
      exact set_known known
  simp only [update, setTransaction, same]

theorem execute_control (control : kindOf sql = .ok .transactionControl) (ref : Nat)
    (params : List Json.Value) (db : Database) :
    db.execute (.transaction ref) sql params = (.error (.control (Text.trim sql)), db) := by
  simp only [execute, Transaction.execute, barred?_of_control control, update_self]

theorem fetch_control (control : kindOf sql = .ok .transactionControl) (ref : Nat)
    (params : List Json.Value) (db : Database) :
    db.fetch (.transaction ref) sql params = (.error (.control (Text.trim sql)), db) := by
  simp only [fetch, Transaction.fetch, barred?_of_control control]

theorem execute_direct {target : Target} (direct : ∀ ref, target ≠ .transaction ref) (sql : String)
    (params : List Json.Value) (db : Database) :
    let did := db.execute target sql params
    (∃ result : Except DriverError _, did.1 = result.mapError .driver) ∧
      did.2.backend.server.counters.executes =
        db.backend.server.counters.executes + (target.passes db).toNat := by
  intro did
  cases target with
  | transaction ref => exact (direct ref rfl).elim
  | connection ref =>
    simp only [did, execute, executeOn, Target.passes]
    cases db.connection? ref with
    | none => exact ⟨⟨_, rfl⟩, rfl⟩
    | some connection => exact ⟨⟨_, rfl⟩, Link.executes_execute sql connection.link db.backend.server⟩
  | database =>
    have lent := db.backend.unasked_checkout
    simp only [did, execute, Target.passes]
    generalize db.backend.checkout = lending at lent ⊢
    rcases lending with ⟨error | connection, backend⟩
    · exact ⟨⟨.error error, rfl⟩, lent.executes⟩
    · have asked := Link.executes_execute sql connection.link backend.server
      simp only [Connection.execute]
      generalize connection.link.execute sql backend.server = ran at asked ⊢
      rcases ran with ⟨result, link, server⟩
      have back := Backend.unasked_release { connection with link } { backend with server }
      exact ⟨⟨result, rfl⟩, (back.executes.trans asked).trans (congrArg (· + 1) lent.executes)⟩

theorem fetch_direct {target : Target} (direct : ∀ ref, target ≠ .transaction ref) (sql : String)
    (params : List Json.Value) (db : Database) :
    let did := db.fetch target sql params
    (∃ result : Except DriverError _, did.1 = result.mapError .driver) ∧
      did.2.backend.server.counters.queries =
        db.backend.server.counters.queries + (target.passes db).toNat := by
  intro did
  cases target with
  | transaction ref => exact (direct ref rfl).elim
  | connection ref =>
    simp only [did, fetch, fetchOn, Target.passes]
    cases db.connection? ref with
    | none => exact ⟨⟨_, rfl⟩, rfl⟩
    | some connection => exact ⟨⟨_, rfl⟩, Link.queries_fetch sql connection.link db.backend.server⟩
  | database =>
    have lent := db.backend.unasked_checkout
    simp only [did, fetch, Target.passes]
    generalize db.backend.checkout = lending at lent ⊢
    rcases lending with ⟨error | connection, backend⟩
    · exact ⟨⟨.error error, rfl⟩, lent.queries⟩
    · have asked := Link.queries_fetch sql connection.link backend.server
      simp only [Connection.fetch]
      generalize connection.link.fetch sql backend.server = ran at asked ⊢
      rcases ran with ⟨result, server⟩
      have back := Backend.unasked_release connection { backend with server }
      exact ⟨⟨result, rfl⟩, (back.queries.trans asked).trans (congrArg (· + 1) lent.queries)⟩

theorem mapError_driver_ne {α : Type} (result : Except DriverError α) (text : String) :
    result.mapError QueryError.driver ≠ .error (.control text) := by
  intro same
  cases result <;> cases same

theorem execute_passes (control : kindOf sql = .ok .transactionControl) (target : Target)
    (params : List Json.Value) (db : Database) :
    let did := db.execute target sql params
    (did.1 = .error (.control (Text.trim sql)) ↔ ∃ ref, target = .transaction ref) ∧
      did.2.backend.server.counters.executes =
        db.backend.server.counters.executes + (target.passes db).toNat := by
  intro did
  by_cases refuses : ∃ ref, target = .transaction ref
  · obtain ⟨ref, rfl⟩ := refuses
    have refused : did = (.error (.control (Text.trim sql)), db) := execute_control control ref params db
    rw [refused]
    exact ⟨⟨fun _ => ⟨ref, rfl⟩, fun _ => rfl⟩, rfl⟩
  · obtain ⟨⟨result, answer⟩, asked⟩ := execute_direct (not_exists.mp refuses) sql params db
    refine ⟨⟨fun refused => ?_, fun some => (refuses some).elim⟩, asked⟩
    exact (mapError_driver_ne result _ (answer.symm.trans refused)).elim

theorem fetch_passes (control : kindOf sql = .ok .transactionControl) (target : Target)
    (params : List Json.Value) (db : Database) :
    let did := db.fetch target sql params
    (did.1 = .error (.control (Text.trim sql)) ↔ ∃ ref, target = .transaction ref) ∧
      did.2.backend.server.counters.queries =
        db.backend.server.counters.queries + (target.passes db).toNat := by
  intro did
  by_cases refuses : ∃ ref, target = .transaction ref
  · obtain ⟨ref, rfl⟩ := refuses
    have refused : did = (.error (.control (Text.trim sql)), db) := fetch_control control ref params db
    rw [refused]
    exact ⟨⟨fun _ => ⟨ref, rfl⟩, fun _ => rfl⟩, rfl⟩
  · obtain ⟨⟨result, answer⟩, asked⟩ := fetch_direct (not_exists.mp refuses) sql params db
    refine ⟨⟨fun refused => ?_, fun some => (refuses some).elim⟩, asked⟩
    exact (mapError_driver_ne result _ (answer.symm.trans refused)).elim

end Database

theorem Console.executeLine_control (control : kindOf sql = .ok .transactionControl) {line : String}
    (holds : command line = .sql sql) (console : Console) (db : Database) :
    console.executeLine line db =
      match console.scopes with
      | _ :: _ => (.error (.query (.control (Text.trim sql))), console, db)
      | [] =>
        match db.execute .database sql [] with
        | (result, db) => ((result.mapError .query).map .affected, console, db) := by
  rw [executeLine_eq, holds]
  simp only [perform, runSql, control]
  cases scopes : console.scopes with
  | nil => simp only [target, scopes]
  | cons top below =>
    simp only [target, scopes, Database.execute_control control]
    rfl

namespace History

theorem mem_published {history : List Event} (mem : sql ∈ published history) :
    .alone sql ∈ history ∨ ∃ holder, .marked holder (.ran sql) ∈ history := by
  induction history with
  | nil => cases mem
  | cons event past ih =>
    have pass (h : .alone sql ∈ past ∨ ∃ holder, .marked holder (.ran sql) ∈ past) :
        .alone sql ∈ event :: past ∨ ∃ holder, .marked holder (.ran sql) ∈ event :: past :=
      h.imp (List.mem_cons_of_mem _) fun ⟨holder, ran⟩ => ⟨holder, List.mem_cons_of_mem _ ran⟩
    cases event with
    | alone sql' =>
      rcases List.mem_append.mp mem with mem | mem
      · exact pass (ih mem)
      · rw [List.mem_singleton.mp mem]
        exact .inl List.mem_cons_self
    | marked holder mark =>
      rcases List.mem_append.mp mem with mem | mem
      · exact pass (ih mem)
      · have told : sql ∈ statements holder past := by
          cases mark with
          | committed => exact mem
          | ran | undone => cases mem
        refine pass (.inr ?_)
        rcases mem_statements told with ran | ⟨hand, ref, past', later, _, split, mem⟩
        · exact ⟨holder, ran⟩
        · rcases mem_statements mem with ran | ⟨_, _, _, _, root, _⟩
          · exact ⟨.handOpened hand, by
              rw [split]
              exact List.mem_append_right _ (List.mem_cons_of_mem _ ran)⟩
          · cases root
    | takenUp ref root => exact pass (ih mem)

end History

def Event.sent? : Event → Option String
  | .alone sql => some sql
  | .marked (.handOpened _) (.ran sql) => some sql
  | _ => none

namespace Action

variable {action : Action} {result : Except DatabaseError Unit} {before after : Database}

def unguarded? : Action → Option String
  | .serverExecute _ sql => some sql
  | action => action.direct?

theorem unguarded?_of_sent {event : Event} (told : action.event? result before after = some event)
    (sent : event.sent? = some sql) : action.unguarded? = some sql ∧ result.toBool = true := by
  have kept {holder : Holder} (lost : loss? holder before after = some event) : False := by
    unfold loss? at lost
    split at lost <;> cases lost
    cases holder <;> cases sent
  cases action with
  | call ref call params =>
    obtain ⟨mark, _, rfl⟩ := Option.map_eq_some_iff.mp told
    cases sent
  | drop ref => exact (kept told).elim
  | letGo ref => exact (kept told).elim
  | finish action ref => cases action <;> cases result <;> cases told <;> cases sent
  | execute | executeOn | serverExecute =>
    cases result <;> cases told
    cases sent
    exact ⟨rfl, rfl⟩
  | _ => cases result <;> cases told <;> cases sent

def statement? : Action → Option String
  | .call _ (.execute sql) _ => some sql
  | action => action.unguarded?

theorem statement?_of_unguarded (unguarded : action.unguarded? = some sql) :
    action.statement? = some sql := by
  cases action <;> first | exact unguarded | cases unguarded

theorem statement?_cases (states : action.statement? = some sql) :
    (∃ ref params, action = .call ref (.execute sql) params) ∨ action.unguarded? = some sql := by
  cases action with
  | call ref call params =>
    cases call with
    | execute sql' =>
      cases states
      exact .inl ⟨ref, params, rfl⟩
    | begin | commit | rollback | exit action | fetch sql' => cases states
  | _ => exact .inr states

end Action

namespace Run

theorem exists_of_mem_steps {run : Run} {actions : List Action} {event : Event}
    (mem : event ∈ (run.steps actions).history) : event ∈ run.history ∨
      ∃ past action later, actions = past ++ action :: later ∧
        action.event? (action.perform (run.steps past).db).1 (run.steps past).db
          ((run.steps past).step action).db = some event := by
  induction actions generalizing run with
  | nil => exact .inl mem
  | cons action actions ih =>
    rcases ih mem with mem | ⟨past, action', later, rfl, told⟩
    · rcases List.mem_append.mp mem with mem | mem
      · exact .inr ⟨[], action, actions, rfl, Option.mem_toList.mp mem⟩
      · exact .inl mem
    · exact .inr ⟨action :: past, action', later, rfl, told⟩

theorem statement_of_mem_journal (server : Server) (settings : Settings) (actions : List Action) :
    let first := start server settings
    sql ∈ (first.steps actions).db.backend.server.journal → sql ∈ server.journal ∨
      ∃ past action later, actions = past ++ action :: later ∧ action.statement? = some sql ∧
        (action.perform (first.steps past).db).1.toBool = true := by
  intro first mem
  have begins := start_consistent server settings
  rw [(begins.steps actions).journal] at mem
  rcases List.mem_append.mp mem with mem | mem
  · exact .inl mem
  · right
    rcases mem_published mem with alone | ⟨holder, ran⟩
    · rcases exists_of_mem_steps alone with mem | ⟨past, action, later, split, told⟩
      · cases mem
      · obtain ⟨unguarded, ok⟩ := Action.unguarded?_of_sent told rfl
        exact ⟨past, action, later, split, Action.statement?_of_unguarded unguarded, ok⟩
    · rcases exists_of_mem_steps ran with mem | ⟨past, action, later, split, told⟩
      · cases mem
      · cases holder with
        | root ref =>
          obtain ⟨⟨params, rfl⟩, ok⟩ := Action.of_ran told
          exact ⟨past, _, later, split, rfl, ok⟩
        | handOpened ref =>
          obtain ⟨unguarded, ok⟩ := Action.unguarded?_of_sent told rfl
          exact ⟨past, action, later, split, Action.statement?_of_unguarded unguarded, ok⟩

theorem control_of_mem_journal (server : Server) (settings : Settings) (actions : List Action)
    (control : kindOf sql = .ok .transactionControl) :
    let first := start server settings
    sql ∈ (first.steps actions).db.backend.server.journal → sql ∈ server.journal ∨
      ∃ past action later, actions = past ++ action :: later ∧ action.unguarded? = some sql ∧
        (action.perform (first.steps past).db).1.toBool = true := by
  intro first mem
  rcases statement_of_mem_journal server settings actions mem with
    mem | ⟨past, action, later, split, states, ok⟩
  · exact .inl mem
  · rcases Action.statement?_cases states with ⟨ref, params, rfl⟩ | unguarded
    · have backed := ((start_consistent server settings).steps past).backed
      have free := ((backed.waits ref sql params).2.2 ok).1
      rw [barred?_of_control control] at free
      cases free
    · exact .inr ⟨past, action, later, split, unguarded, ok⟩

end Run

/-- What becomes of a text that controls the transaction. A transaction refuses it without asking the
server, and so does a console with a handle. A connection, the database, and a console without a handle
pass it on, and where it is run with success it is in the journal; there is no other way into it, save for
transactions that were opened by hand. -/
theorem Session.control_runs (control : kindOf sql = .ok .transactionControl) (server : Server)
    (settings : Settings) (requests : List Request) :
    let first := Session.start server settings
    let session := first.steps requests
    let actions := first.actionsOf requests
    let run := (Run.start server settings).steps actions
    let db := session.db
    run.db = db ∧
      (∀ ref params, db.execute (.transaction ref) sql params = (.error (.control (Text.trim sql)), db) ∧
        db.fetch (.transaction ref) sql params = (.error (.control (Text.trim sql)), db)) ∧
      (∀ target params, let did := db.execute target sql params
        (did.1 = .error (.control (Text.trim sql)) ↔ ∃ ref, target = .transaction ref) ∧
          did.2.backend.server.counters.executes =
            db.backend.server.counters.executes + (target.passes db).toNat) ∧
      (∀ target params, let did := db.fetch target sql params
        (did.1 = .error (.control (Text.trim sql)) ↔ ∃ ref, target = .transaction ref) ∧
          did.2.backend.server.counters.queries =
            db.backend.server.counters.queries + (target.passes db).toNat) ∧
      (∀ line console, Console.command line = .sql sql → Console.executeLine line console db =
        match console.scopes with
        | _ :: _ => (.error (.query (.control (Text.trim sql))), console, db)
        | [] =>
          match db.execute .database sql [] with
          | (result, db) => ((result.mapError .query).map .affected, console, db)) ∧
      (∀ action, action.direct? = some sql → run.TakesEffect action sql) ∧
      (sql ∈ db.backend.server.journal → sql ∈ server.journal ∨
        ∃ past action later, actions = past ++ action :: later ∧ action.unguarded? = some sql ∧
          (action.perform ((Run.start server settings).steps past).db).1.toBool = true) := by
  intro first session actions run db
  have same : run.db = db :=
    (Run.db_steps _ _).trans ((Sound.start server settings).steps requests).1.symm
  have consistent : run.Consistent server.journal :=
    (Run.start_consistent server settings).steps actions
  refine ⟨same, fun ref params => ⟨?_, ?_⟩, fun target params => ?_, fun target params => ?_,
    fun line console holds => ?_, fun action direct => ?_, fun mem => ?_⟩
  · exact Database.execute_control control ref params db
  · exact Database.fetch_control control ref params db
  · exact Database.execute_passes control target params db
  · exact Database.fetch_passes control target params db
  · exact Console.executeLine_control control holds console db
  · exact consistent.backed.takesEffect direct
  · rw [← same] at mem
    exact Run.control_of_mem_journal server settings actions control mem

theorem kindOf_beginWork : kindOf "begin work" = .ok .transactionControl := by rfl

theorem Session.control_runs_begun :
    let sql := "begin work"
    let requests : List Request := [.openConsole, .line 0 "BEGIN", .line 0 " begin work; "]
    let session := (Session.start .empty .standard).steps requests
    kindOf sql = .ok .transactionControl ∧
      session.db.execute (.transaction 0) sql [] = (.error (.control "begin work"), session.db) ∧
      "begin work" ∉ session.db.backend.server.journal ∧
      ∀ console : Console, console.scopes = [0] → Console.executeLine " begin work; " console session.db =
        (.error (.query (.control "begin work")), console, session.db) := by
  intro sql requests session
  have control : kindOf sql = .ok .transactionControl := kindOf_beginWork
  have trimmed : Text.trim sql = "begin work" := by decide +kernel
  have holds : Console.command " begin work; " = .sql sql := by decide +kernel
  have unrun : "begin work" ∉ session.db.backend.server.journal := by decide +kernel
  obtain ⟨_, refused, _, _, line, _⟩ := control_runs control .empty .standard requests
  rw [trimmed] at refused line
  refine ⟨control, (refused 0 []).1, unrun, fun console scopes => ?_⟩
  have told := line " begin work; " console holds
  rw [scopes] at told
  exact told

/-- Without a transaction a text that begins one is run, on a connection, on the database, and by a
console. -/
theorem Session.control_passed :
    let requests : List Request := [.act .borrow, .openConsole, .act (.executeOn 0 "BEGIN"),
      .act (.execute "BEGIN" []), .line 0 "BEGIN WORK"]
    let server := ((Session.start .empty .standard).steps requests).db.backend.server
    kindOf "BEGIN" = .ok .transactionControl ∧ kindOf "BEGIN WORK" = .ok .transactionControl ∧
      server.journal = ["BEGIN", "BEGIN", "BEGIN WORK"] ∧ server.counters.executes = 3 := by
  intro requests server
  exact ⟨rfl, rfl, by decide +kernel, by decide +kernel⟩

end NestedTx
