import NestedTx.Database.Connections

namespace NestedTx

inductive Target
  | transaction (ref : Nat)
  | connection (ref : Nat)
  | database
deriving DecidableEq, Repr

namespace Database

def execute (target : Target) (sql : String) (_params : List Json.Value) (db : Database) :
    Except QueryError Nat × Database :=
  match target with
  | .transaction ref =>
    match (db.transaction ref).execute sql db.backend with
    | (result, tx, backend) => (result, db.update ref tx backend)
  | .connection ref =>
    match db.executeOn ref sql with
    | (result, db) => (result.mapError .driver, db)
  | .database =>
    match db.backend.checkout with
    | (.error error, backend) => (.error (.driver error), { db with backend })
    | (.ok connection, backend) =>
      match connection.execute sql backend with
      | (result, connection, backend) =>
        (result.mapError .driver, { db with backend := backend.release connection })

def fetch (target : Target) (sql : String) (_params : List Json.Value) (db : Database) :
    Except QueryError (List Row) × Database :=
  match target with
  | .transaction ref =>
    match (db.transaction ref).fetch sql db.backend with
    | (result, backend) => (result, { db with backend })
  | .connection ref =>
    match db.fetchOn ref sql with
    | (result, db) => (result.mapError .driver, db)
  | .database =>
    match db.backend.checkout with
    | (.error error, backend) => (.error (.driver error), { db with backend })
    | (.ok connection, backend) =>
      match connection.fetch sql backend with
      | (result, backend) =>
        (result.mapError .driver, { db with backend := backend.release connection })

def fetchFirst (target : Target) (sql : String) (params : List Json.Value) (db : Database) :
    Except QueryError (Option Row) × Database :=
  match db.fetch target sql params with
  | (result, db) => (result.map List.head?, db)

end Database

end NestedTx
