import NestedTx.Database.Basic

/-!
Scopes: levels of a transaction that are left exactly once, however their block ends. A block run in
a scope commits when it ends well, and otherwise rolls the transaction back.
-/

namespace NestedTx

structure Scope where
  ref : Nat
  onExit : ExitAction
deriving DecidableEq, Repr

inductive Ending (ε α : Type) where
  | ok (value : α)
  | error (fault : ε)
  | panic (reason : String)

namespace Scope

def finishAs (action : ExitAction) (scope : Scope) (db : Database) :
    Except TransactionError Unit × Database :=
  match db.exit action scope.ref with
  | (result, db) => (result, db.drop scope.ref)

def finish (scope : Scope) (db : Database) : Except TransactionError Unit × Database :=
  scope.finishAs scope.onExit db

/-- Commit, then leave the scope; a commit that fails is rolled back on the way out. -/
def commit (scope : Scope) (db : Database) : Except TransactionError Unit × Database :=
  match db.commit scope.ref with
  | (result, db) => (result, (scope.finishAs .rollback db).2)

def rollback (scope : Scope) (db : Database) : Except TransactionError Unit × Database :=
  match db.rollback scope.ref with
  | (result, db) => (result, (scope.finishAs .rollback db).2)

def drop (scope : Scope) (db : Database) : Database := (scope.finish db).2

def unwind (scope : Scope) (db : Database) : Database := (scope.finishAs .rollback db).2

def close {ε α : Type} (ofError : TransactionError → ε) (ending : Ending ε α) (scope : Scope)
    (db : Database) : Ending ε α × Database :=
  match ending with
  | .ok value =>
    match scope.finishAs .commit db with
    | (.ok _, db) => (.ok value, db)
    | (.error error, db) => (.error (ofError error), db)
  | .error fault => (.error fault, (scope.finishAs .rollback db).2)
  | .panic reason => (.panic reason, scope.unwind db)

end Scope

namespace Database

def enter (db : Database) : Except TransactionError Scope × Database :=
  match db.begin with
  | (.error error, db) => (.error error, db)
  | (.ok ref, db) => (.ok ⟨ref, .rollback⟩, db)

def enterNested (ref : Nat) (db : Database) : Except TransactionError Scope × Database :=
  match db.beginNested ref with
  | (.error error, db) => (.error error, db)
  | (.ok _, db) => (.ok ⟨ref, .rollback⟩, db)

variable {ε α : Type}

def runIn (ofError : TransactionError → ε) (block : Nat → Database → Ending ε α × Database)
    (entered : Except TransactionError Scope × Database) : Ending ε α × Database :=
  match entered with
  | (.error error, db) => (.error (ofError error), db)
  | (.ok scope, db) =>
    match block scope.ref db with
    | (ending, db) => scope.close ofError ending db

def withTransaction (ofError : TransactionError → ε)
    (block : Nat → Database → Ending ε α × Database) (db : Database) : Ending ε α × Database :=
  runIn ofError block db.enter

def nested (ofError : TransactionError → ε) (ref : Nat)
    (block : Nat → Database → Ending ε α × Database) (db : Database) : Ending ε α × Database :=
  runIn ofError block (db.enterNested ref)

end Database

end NestedTx
