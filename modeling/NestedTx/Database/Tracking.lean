import NestedTx.Database.Basic

namespace NestedTx

namespace Database

def cleanup (db : Database) : Nat × Database :=
  (db.tracked.length - db.prune.tracked.length, db.prune)

def activeCount (db : Database) : Nat × Database :=
  (db.prune.tracked.length, db.prune)

def snapshot? (ref : Nat) (db : Database) : Option Snapshot :=
  match db.entries[ref]? with
  | some entry => if 0 < entry.handles then some entry.transaction.snapshot else none
  | none => none

def active (db : Database) : List Snapshot × Database :=
  ((db.prune.tracked.filterMap fun t => db.snapshot? t.2).mergeSort fun a b => a.id ≤ b.id, db.prune)

def info? (id : String) (db : Database) : Option Snapshot :=
  match db.tracked.lookup id with
  | some ref => db.snapshot? ref
  | none => none

def isActive (id : String) (db : Database) : Bool :=
  match db.info? id with
  | some info => !info.finalized
  | none => false

end Database

structure Stats where
  created : Nat
  available : Nat
  limit : Nat
  active : Nat
deriving DecidableEq, Repr

def Database.stats (db : Database) : Stats × Database :=
  (⟨db.backend.pool.created, db.backend.pool.idle.length, db.backend.pool.limit, db.activeCount.1⟩,
    db.prune)

end NestedTx
