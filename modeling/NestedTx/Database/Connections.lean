import NestedTx.Database.Basic

namespace NestedTx.Database

def adoptConnection (connection : Connection) (db : Database) : Nat × Database :=
  (db.connections.length, { db with connections := db.connections ++ [some connection] })

def borrow (db : Database) : Except DriverError Nat × Database :=
  match db.backend.checkout with
  | (.error error, backend) => (.error error, { db with backend })
  | (.ok connection, backend) =>
    match { db with backend }.adoptConnection connection with
    | (ref, db) => (.ok ref, db)

def connection? (ref : Nat) (db : Database) : Option Connection :=
  (db.connections[ref]?).join

def forgetConnection (ref : Nat) (db : Database) : Database :=
  { db with connections := db.connections.set ref none }

def giveBack (ref : Nat) (db : Database) : Database :=
  match db.connection? ref with
  | none => db
  | some connection => { db.forgetConnection ref with backend := db.backend.release connection }

def pingConnection (ref : Nat) (db : Database) : Except DriverError Unit × Database :=
  match db.connection? ref with
  | none => (.error .closed, db)
  | some connection =>
    match connection.ping db.backend with
    | (result, backend) => (result, { db with backend })

def executeOn (ref : Nat) (sql : String) (db : Database) : Except DriverError Nat × Database :=
  match db.connection? ref with
  | none => (.error .closed, db)
  | some connection =>
    match connection.execute sql db.backend with
    | (result, connection, backend) =>
      (result, { db with connections := db.connections.set ref (some connection), backend })

def fetchOn (ref : Nat) (sql : String) (db : Database) : Except DriverError (List Row) × Database :=
  match db.connection? ref with
  | none => (.error .closed, db)
  | some connection =>
    match connection.fetch sql db.backend with
    | (result, backend) => (result, { db with backend })

def beginOn (ref : Nat) (db : Database) : Except DriverError Nat × Database :=
  match db.connection? ref with
  | none => (.error .closed, db)
  | some connection =>
    match ServerTransaction.begin connection db.backend with
    | (.error error, backend) => (.error error, { db.forgetConnection ref with backend })
    | (.ok tx, backend) =>
      (.ok db.serverTransactions.length,
        { db.forgetConnection ref with
          backend
          serverTransactions := db.serverTransactions ++ [some tx] })

def serverTransaction? (ref : Nat) (db : Database) : Option ServerTransaction :=
  (db.serverTransactions[ref]?).join

def forgetServerTransaction (ref : Nat) (db : Database) : Database :=
  { db with serverTransactions := db.serverTransactions.set ref none }

def updateServerTransaction (ref : Nat) (tx : ServerTransaction) (backend : Backend)
    (db : Database) : Database :=
  { db with serverTransactions := db.serverTransactions.set ref (some tx), backend }

def serverCommit (ref : Nat) (db : Database) : Except DriverError Unit × Database :=
  match db.serverTransaction? ref with
  | none => (.error .closed, db)
  | some tx =>
    match tx.commit db.backend with
    | (result, tx, backend) => (result, db.updateServerTransaction ref tx backend)

def serverRollback (ref : Nat) (db : Database) : Except DriverError Unit × Database :=
  match db.serverTransaction? ref with
  | none => (.error .closed, db)
  | some tx =>
    match tx.rollback db.backend with
    | (result, tx, backend) => (result, db.updateServerTransaction ref tx backend)

def serverExecute (ref : Nat) (sql : String) (db : Database) : Except DriverError Nat × Database :=
  match db.serverTransaction? ref with
  | none => (.error .closed, db)
  | some tx =>
    match tx.execute sql db.backend with
    | (result, tx, backend) => (result, db.updateServerTransaction ref tx backend)

def serverFetch (ref : Nat) (sql : String) (db : Database) :
    Except DriverError (List Row) × Database :=
  match db.serverTransaction? ref with
  | none => (.error .closed, db)
  | some tx =>
    match tx.fetch sql db.backend with
    | (result, backend) => (result, { db with backend })

def letGo (ref : Nat) (db : Database) : Database :=
  match db.serverTransaction? ref with
  | none => db
  | some tx => { db.forgetServerTransaction ref with backend := db.backend.release tx.connection }

def takeUp (ref : Nat) (id : String) (settings : TransactionSettings) (db : Database) :
    Option Nat × Database :=
  match db.serverTransaction? ref with
  | none => (none, db)
  | some tx =>
    match (db.forgetServerTransaction ref).adopt (.root id tx settings) with
    | (ref, db) => (some ref, db)

end NestedTx.Database
