import NestedTx.Database.Connections

namespace NestedTx

inductive PingTarget
  | pool
  | connection (ref : Nat)
deriving DecidableEq, Repr

namespace Database

def pingPool (db : Database) : Except DriverError Unit × Database :=
  match db.backend.checkout with
  | (.error error, backend) => (.error error, { db with backend })
  | (.ok connection, backend) =>
    match connection.ping backend with
    | (result, backend) => (result, { db with backend := backend.release connection })

def ping (target : PingTarget) (db : Database) : Except DriverError Unit × Database :=
  match target with
  | .pool => db.pingPool
  | .connection ref => db.pingConnection ref

def tryReach (target : PingTarget) (policy : Backoff) (db : Database) :
    Except Unreachable Reached × Database :=
  policy.reach (fun db => db.ping target) db

def reach (target : PingTarget) (policy : Backoff) (db : Database) :
    Except Unreachable Reached × Database :=
  Backoff.announce (fun fault => raise (.unreachable fault)) (db.tryReach target policy)

def ensureReachable (db : Database) : Except DatabaseError Reached × Database :=
  match db.reach .pool db.settings.ping with
  | (result, db) => (result.mapError .ping, db)

end Database

end NestedTx
