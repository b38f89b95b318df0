import NestedTx.Alarm
import NestedTx.Database.Settings
import NestedTx.Identifier

/-!
A database as its users see it: a server, a pool of connections to it, and the transactions begun on
it. Users hold transactions by number, several of them the same one; the last to let go of an open
transaction ends it.
-/

namespace NestedTx

structure Entry where
  transaction : Transaction
  handles : Nat
deriving DecidableEq, Repr

structure Database where
  settings : Settings
  backend : Backend
  entries : List Entry
  tracked : List (String × Nat)
  connections : List (Option Connection)
  serverTransactions : List (Option ServerTransaction)
  alarms : List Alarm
  nextSerial : Nat

def Transaction.ended : Transaction where
  id := ""
  settings := ⟨false, .zero, false⟩
  carrier := none
  status := .rolledBack
  outer := []
  shown := .rolledBack
  carrierCommitted := false
  rolledBack := true
  watchdog := .absent
  leaked := false

namespace Database

def on (server : Server) (settings : Settings) : Database where
  settings
  backend := ⟨server, .empty settings.maxConnections⟩
  entries := []
  tracked := []
  connections := []
  serverTransactions := []
  alarms := []
  nextSerial := 0

def open? (server : Server) (settings : Settings) : Except DatabaseError Database :=
  settings.validate.map fun _ => .on server settings

def raise (alarm : Alarm) (db : Database) : Database := { db with alarms := db.alarms ++ [alarm] }

def transaction (ref : Nat) (db : Database) : Transaction :=
  match db.entries[ref]? with
  | some entry => entry.transaction
  | none => .ended

def setTransaction (ref : Nat) (tx : Transaction) (db : Database) : Database :=
  { db with entries := db.entries.modify ref fun entry => { entry with transaction := tx } }

def isOpen (ref : Nat) (db : Database) : Bool :=
  match db.entries[ref]? with
  | some entry => 0 < entry.handles && !entry.transaction.isFinalized
  | none => false

def retain (ref : Nat) (db : Database) : Database :=
  { db with entries := db.entries.modify ref fun entry => { entry with handles := entry.handles + 1 } }

def drop (ref : Nat) (db : Database) : Database :=
  match db.entries[ref]? with
  | none => db
  | some entry =>
    match entry.handles with
    | 0 => db
    | 1 =>
      match entry.transaction.abandon db.backend with
      | (tx, backend) => { db with entries := db.entries.set ref ⟨tx, 0⟩, backend }
    | handles + 1 => { db with entries := db.entries.set ref { entry with handles } }

def adopt (tx : Transaction) (db : Database) : Nat × Database :=
  (db.entries.length, { db with entries := db.entries ++ [⟨tx, 1⟩] })

def prune (db : Database) : Database :=
  { db with tracked := db.tracked.filter fun t => db.isOpen t.2 }

def refuseBegin (cause : DriverError) (db : Database) : Except TransactionError Nat × Database :=
  (.error (.beginFailed cause),
    if db.settings.strict then db.raise (.beginFailed cause) else db)

def begin (db : Database) : Except TransactionError Nat × Database :=
  match db.backend.checkout with
  | (.error error, backend) => { db with backend }.refuseBegin error
  | (.ok connection, backend) =>
    match ServerTransaction.begin connection backend with
    | (.error error, backend) => { db with backend }.refuseBegin error
    | (.ok carrier, backend) =>
      let id := Identifier.ofSerial db.nextSerial
      let tx := Transaction.root id carrier db.settings.forTransactions
      match { db with backend, nextSerial := db.nextSerial + 1 }.adopt tx with
      | (ref, db) =>
        let db := db.prune
        (.ok ref, { db with tracked := db.tracked ++ [(id, ref)] })

def beginNested (ref : Nat) (db : Database) : Except TransactionError Unit × Database :=
  match (db.transaction ref).begin with
  | .error error => (.error error, db)
  | .ok tx => (.ok (), (db.setTransaction ref tx).retain ref)

def update (ref : Nat) (tx : Transaction) (backend : Backend) (db : Database) : Database :=
  { db.setTransaction ref tx with backend }

def commit (ref : Nat) (db : Database) : Except TransactionError Unit × Database :=
  match (db.transaction ref).commit db.backend with
  | (result, tx, backend) => (result, db.update ref tx backend)

def rollback (ref : Nat) (db : Database) : Except TransactionError Unit × Database :=
  match (db.transaction ref).rollback db.backend with
  | (result, tx, backend) => (result, db.update ref tx backend)

/-- Leave the innermost level of a transaction. A strict one that cannot be left as it should raises
an alarm. -/
def exit (action : ExitAction) (ref : Nat) (db : Database) :
    Except TransactionError Unit × Database :=
  match (db.transaction ref).exit action db.backend with
  | (.ok _, tx, backend) => (.ok (), db.update ref tx backend)
  | (.error failed, tx, backend) =>
    let db := db.update ref tx backend
    (.error failed.error, if tx.settings.strict then db.raise (.exit failed) else db)

def expire (ref openFor : Nat) (db : Database) : Database :=
  match db.entries[ref]? with
  | none => db
  | some entry =>
    if entry.handles = 0 then db
    else
      let tx := entry.transaction
      let db := db.setTransaction ref tx.expire
      if tx.leaksNow then db.raise (.leak tx.id openFor) else db

end Database

end NestedTx
