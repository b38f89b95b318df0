import NestedTx.Database.Scope
import NestedTx.Database.Connections
import NestedTx.Cache.Store
import NestedTx.Decimal.Notation
import NestedTx.Text.Quoted

namespace NestedTx.Diagnostics

def record (name : String) (parts : List (String × String)) : String :=
  name ++ " \x7b " ++ ", ".intercalate (parts.map fun p => p.1 ++ ": " ++ p.2) ++ " \x7d"

def sealed (name : String) : String := name ++ " \x7b .. \x7d"

def bool (b : Bool) : String := if b then "true" else "false"

def nat (n : Nat) : String := toString n

def status : Status → String
  | .pending => "Pending"
  | .committed => "Committed"
  | .rolledBack => "RolledBack"
  | .errored => "Errored"

def exitAction : ExitAction → String
  | .commit => "Commit"
  | .rollback => "Rollback"

def transaction (tx : Transaction) : String :=
  record "Transaction"
    [("id", Text.quoted tx.id), ("state", status tx.shown), ("rolled_back", bool tx.rolledBack)]

def scope (tx : Transaction) (onExit : ExitAction) : String :=
  record "TxScope" [("tx", "Some(" ++ transaction tx ++ ")"), ("on_exit", exitAction onExit)]

def connection (connection : Connection) : String :=
  record "Connection" [("id", nat connection.id), ("pooled", bool connection.pooled)]

def pool (pool : Pool) : String :=
  record "ConnectionPool"
    [("driver", Text.quoted "memory"), ("created", nat pool.created),
      ("available", nat pool.idle.length)]

def backoff (policy : Backoff) : String :=
  record "BackoffPolicy"
    [("initial_interval_ms", nat policy.initial),
      ("multiplier", Decimal.diagnostic.render policy.multiplier),
      ("max_interval_ms", nat policy.cap),
      ("max_elapsed_ms", nat policy.budget)]

def settings (settings : Settings) : String :=
  record "DatabaseConfig"
    [("strict", bool settings.strict),
      ("leak_grace", settings.leakGrace.describe),
      ("max_connections", nat settings.maxConnections),
      ("ping", backoff settings.ping),
      ("verbose", bool settings.verbose)]

def database (db : Database) : String :=
  record "Database" [("config", settings db.settings), ("pool", pool db.backend.pool)]

def counters (counters : Counters) : String :=
  record "DriverCounters"
    [("connects", nat counters.connects), ("pings", nat counters.pings),
      ("begins", nat counters.begins), ("commits", nat counters.commits),
      ("rollbacks", nat counters.rollbacks), ("executes", nat counters.executes),
      ("queries", nat counters.queries)]

def server (server : Server) : String :=
  record "MemoryDriver" [("counters", counters server.counters)]

def alarms : String := sealed "Fatal"

def tracking (db : Database) : String :=
  record "TransactionManager"
    [("active_count", nat db.tracked.length), ("strict", bool db.settings.strict)]

def store (store : Store) : String :=
  record "MemoryKeyValueStore" [("len", nat store.size)]

def transactionSettings (settings : TransactionSettings) : String :=
  record "TxConfig"
    [("strict", bool settings.strict), ("leak_grace", settings.leakGrace.describe),
      ("fatal", alarms), ("verbose", bool settings.verbose)]

end NestedTx.Diagnostics
