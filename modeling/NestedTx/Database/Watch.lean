import NestedTx.Database.Basic

namespace NestedTx

structure Watch where
  begun : List Duration
deriving DecidableEq, Repr

namespace Watch

def empty : Watch := ⟨[]⟩

def observe (now : Duration) (db : Database) (watch : Watch) : Watch :=
  ⟨watch.begun ++ List.replicate (db.entries.length - watch.begun.length) now⟩

def isDue (now begun : Duration) (tx : Transaction) : Bool :=
  tx.settings.strict && begun.nanos + tx.settings.leakGrace.nanos ≤ now.nanos

def expireFrom (now : Duration) (ref : Nat) : List Duration → Database → Database
  | [], db => db
  | begun :: rest, db =>
    let db := if isDue now begun (db.transaction ref) then
        db.expire ref ((now.nanos - begun.nanos) / 1000000000)
      else db
    expireFrom now (ref + 1) rest db

def expire (now : Duration) (watch : Watch) (db : Database) : Database :=
  expireFrom now 0 watch.begun db

end Watch

end NestedTx
