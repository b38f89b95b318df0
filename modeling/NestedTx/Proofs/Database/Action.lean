import NestedTx.Database.Reachability
import NestedTx.Database.Statements
import NestedTx.Proofs.Database.History

/-!
Runs of a database: what its users do one after the other, and the history that is seen of it. The
events are read off the answers that users get and off the server's counters.
-/

namespace NestedTx

namespace Database

/-- What a transaction keeps open on the server, and whether it says that it was committed and rolled
back. One that was opened by hand does not say. -/
structure Standing where
  carrier : Option ServerTransaction
  flags : Option (Bool × Bool)

end Database

open Database (Standing)

def Transaction.standing (tx : Transaction) : Standing :=
  ⟨tx.carrier, some (tx.carrierCommitted, tx.rolledBack)⟩

namespace Database

def standing : Holder → Database → Option Standing
  | .root ref, db => db.entries[ref]?.map fun entry => entry.transaction.standing
  | .handOpened ref, db => db.serverTransactions[ref]?.map fun carrier => ⟨carrier, none⟩

def held (holder : Holder) (db : Database) : Option ServerTransaction :=
  (db.standing holder).bind Standing.carrier

def isHeld (ref : Nat) (db : Database) : Bool :=
  db.entries[ref]?.any fun entry => 0 < entry.handles

def perform (call : Transaction.Call) (params : List Json.Value) (ref : Nat) (db : Database) :
    Except TransactionError Unit × Database :=
  match call with
  | .begin => db.beginNested ref
  | .commit => db.commit ref
  | .rollback => db.rollback ref
  | .exit action => db.exit action ref
  | .execute sql =>
    match db.execute (.transaction ref) sql params with
    | (result, db) => ((result.map fun _ => ()).mapError .query, db)
  | .fetch sql =>
    match db.fetch (.transaction ref) sql params with
    | (result, db) => ((result.map fun _ => ()).mapError .query, db)

def finish (action : ExitAction) (ref : Nat) (db : Database) : Except DriverError Unit × Database :=
  match action with
  | .commit => db.serverCommit ref
  | .rollback => db.serverRollback ref

def attach (db : Database) : Except DriverError Nat × Database :=
  match db.backend.server.connect with
  | (.error error, server) => (.error error, { db with backend := { db.backend with server } })
  | (.ok link, server) =>
    match { db with backend := { db.backend with server } }.adoptConnection (.standalone link) with
    | (ref, db) => (.ok ref, db)

def setFaults (faults : Faults) (db : Database) : Database :=
  { db with backend := { db.backend with server := { db.backend.server with faults } } }

def answer (sql : String) (rows : List Row) (db : Database) : Database :=
  { db with backend := { db.backend with server := db.backend.server.answer sql rows } }

def tell {ε α : Type} (ofError : ε → DatabaseError) :
    Except ε α × Database → Except DatabaseError Unit × Database
  | (result, db) => ((result.map fun _ => ()).mapError ofError, db)

end Database

inductive Action
  | begin
  | call (ref : Nat) (call : Transaction.Call) (params : List Json.Value)
  | retain (ref : Nat)
  | drop (ref : Nat)
  | expire (ref openFor : Nat)
  | prune
  | execute (sql : String) (params : List Json.Value)
  | fetch (sql : String) (params : List Json.Value)
  | ping (target : PingTarget)
  | borrow
  | attach
  | giveBack (ref : Nat)
  | executeOn (ref : Nat) (sql : String)
  | fetchOn (ref : Nat) (sql : String)
  | beginOn (ref : Nat)
  | finish (action : ExitAction) (ref : Nat)
  | serverExecute (ref : Nat) (sql : String)
  | serverFetch (ref : Nat) (sql : String)
  | letGo (ref : Nat)
  | takeUp (ref : Nat) (id : String) (settings : TransactionSettings)
  | setFaults (faults : Faults)
  | answer (sql : String) (rows : List Row)

namespace Action

open Database (tell isHeld held)

def perform : Action → Database → Except DatabaseError Unit × Database
  | .begin, db => tell .transaction db.begin
  | .call ref asked params, db =>
    if db.isHeld ref then tell .transaction (db.perform asked params ref)
    else (.error .noTransaction, db)
  | .retain ref, db =>
    if db.isHeld ref then (.ok (), db.retain ref) else (.error .noTransaction, db)
  | .drop ref, db => (.ok (), db.drop ref)
  | .expire ref openFor, db => (.ok (), db.expire ref openFor)
  | .prune, db => (.ok (), db.prune)
  | .execute sql params, db => tell .query (db.execute .database sql params)
  | .fetch sql params, db => tell .query (db.fetch .database sql params)
  | .ping target, db => tell .driver (db.ping target)
  | .borrow, db => tell .driver db.borrow
  | .attach, db => tell .driver db.attach
  | .giveBack ref, db => (.ok (), db.giveBack ref)
  | .executeOn ref sql, db => tell .driver (db.executeOn ref sql)
  | .fetchOn ref sql, db => tell .driver (db.fetchOn ref sql)
  | .beginOn ref, db => tell .driver (db.beginOn ref)
  | .finish action ref, db => tell .driver (db.finish action ref)
  | .serverExecute ref sql, db => tell .driver (db.serverExecute ref sql)
  | .serverFetch ref sql, db => tell .driver (db.serverFetch ref sql)
  | .letGo ref, db => (.ok (), db.letGo ref)
  | .takeUp ref id settings, db =>
    match db.takeUp ref id settings with
    | (none, db) => (.error .noTransaction, db)
    | (some _, db) => (.ok (), db)
  | .setFaults faults, db => (.ok (), db.setFaults faults)
  | .answer sql rows, db => (.ok (), db.answer sql rows)

def loss? (holder : Holder) (before after : Database) : Option Event :=
  if isLive (before.held holder) && !isLive (after.held holder) then some (.marked holder .undone)
  else none

def event? (action : Action) (result : Except DatabaseError Unit) (before after : Database) :
    Option Event :=
  match action, result with
  | .call ref asked _, result =>
    (asked.mark? result before.backend.server.counters after.backend.server.counters).map
      (.marked (.root ref))
  | .drop ref, _ => loss? (.root ref) before after
  | .letGo ref, _ => loss? (.handOpened ref) before after
  | .execute sql _, .ok _ => some (.alone sql)
  | .executeOn _ sql, .ok _ => some (.alone sql)
  | .finish .commit ref, .ok _ => some (.marked (.handOpened ref) .committed)
  | .finish .rollback ref, .ok _ => some (.marked (.handOpened ref) .undone)
  | .serverExecute ref sql, .ok _ => some (.marked (.handOpened ref) (.ran sql))
  | .takeUp ref _ _, .ok _ => some (.takenUp ref before.entries.length)
  | _, _ => none

end Action

structure Run where
  history : List Event
  db : Database

namespace Run

def start (server : Server) (settings : Settings) : Run := ⟨[], .on server settings⟩

def step (run : Run) (action : Action) : Run :=
  match action.perform run.db with
  | (result, db) => ⟨(action.event? result run.db db).toList ++ run.history, db⟩

def steps (run : Run) (actions : List Action) : Run := actions.foldl step run

theorem db_step (run : Run) (action : Action) :
    (run.step action).db = (action.perform run.db).2 := rfl

theorem steps_append (run : Run) (actions later : List Action) :
    run.steps (actions ++ later) = (run.steps actions).steps later :=
  List.foldl_append

end Run

end NestedTx
