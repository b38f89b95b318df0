import NestedTx.Server.Error
import NestedTx.Json.Basic
import NestedTx.Sql.Grammar.Statement

/-!
A database server with a journal of the statements that took effect. A statement outside a
transaction takes effect at once; one inside a transaction waits until the commit. The server counts
the calls it gets, and can be told to refuse some of them.
-/

namespace NestedTx

structure Counters where
  connects : Nat
  pings : Nat
  begins : Nat
  commits : Nat
  rollbacks : Nat
  executes : Nat
  queries : Nat
deriving DecidableEq, Repr

def Counters.zero : Counters := ⟨0, 0, 0, 0, 0, 0, 0⟩

/-- Which calls a server refuses: a number of pings to come, and any kind that is switched off. -/
structure Faults where
  pings : Nat
  connect : Bool
  begin : Bool
  commit : Bool
  rollback : Bool
deriving DecidableEq, Repr

def Faults.none : Faults := ⟨0, false, false, false, false⟩

structure Server where
  journal : List String
  answers : List (String × List Row)
  faults : Faults
  counters : Counters

structure Link where
  pending : Option (List String)
deriving DecidableEq, Repr

namespace Server

def empty : Server := ⟨[], [], .none, .zero⟩

def answer (sql : String) (rows : List Row) (server : Server) : Server :=
  { server with answers := (sql, rows) :: server.answers }

def rows (sql : String) (server : Server) : List Row :=
  (server.answers.lookup sql).getD []

def publish (statements : List String) (server : Server) : Server :=
  { server with journal := server.journal ++ statements }

def connect (server : Server) : Except DriverError Link × Server :=
  let server := { server with
    counters := { server.counters with connects := server.counters.connects + 1 } }
  if server.faults.connect then (.error (.connection "connection refused"), server)
  else (.ok ⟨none⟩, server)

def statementCount (sql : String) : Except DriverError Nat :=
  match Sql.Script.parse sql.toList with
  | .error error => .error (.invalid ("sql parser error: " ++ error.message))
  | .ok [] => .error (.invalid "empty statement")
  | .ok statements => .ok statements.length

end Server

namespace Link

def inTransaction (link : Link) : Bool := link.pending.isSome

def ping (_link : Link) (server : Server) : Except DriverError Unit × Server :=
  let server := { server with
    counters := { server.counters with pings := server.counters.pings + 1 } }
  match server.faults.pings with
  | 0 => (.ok (), server)
  | n + 1 =>
    (.error (.connection "server is not accepting connections"),
      { server with faults := { server.faults with pings := n } })

def begin (link : Link) (server : Server) : Except DriverError Unit × Link × Server :=
  let server := { server with
    counters := { server.counters with begins := server.counters.begins + 1 } }
  match link.pending with
  | some _ => (.error .transactionOpen, link, server)
  | none =>
    if server.faults.begin then (.error (.server "could not start transaction"), link, server)
    else (.ok (), ⟨some []⟩, server)

def commit (link : Link) (server : Server) : Except DriverError Unit × Link × Server :=
  let server := { server with
    counters := { server.counters with commits := server.counters.commits + 1 } }
  match link.pending with
  | none => (.error .noTransaction, link, server)
  | some statements =>
    if server.faults.commit then (.error (.server "could not serialize access"), link, server)
    else (.ok (), ⟨none⟩, server.publish statements)

def rollback (link : Link) (server : Server) : Except DriverError Unit × Link × Server :=
  let server := { server with
    counters := { server.counters with rollbacks := server.counters.rollbacks + 1 } }
  match link.pending with
  | none => (.error .noTransaction, link, server)
  | some _ =>
    if server.faults.rollback then
      (.error (.server "connection reset during rollback"), link, server)
    else (.ok (), ⟨none⟩, server)

def execute (sql : String) (link : Link) (server : Server) :
    Except DriverError Nat × Link × Server :=
  let server := { server with
    counters := { server.counters with executes := server.counters.executes + 1 } }
  match Server.statementCount sql with
  | .error error => (.error error, link, server)
  | .ok count =>
    match link.pending with
    | some statements => (.ok count, ⟨some (statements ++ [sql])⟩, server)
    | none => (.ok count, link, server.publish [sql])

def fetch (sql : String) (_link : Link) (server : Server) : Except DriverError (List Row) × Server :=
  let server := { server with
    counters := { server.counters with queries := server.counters.queries + 1 } }
  match Server.statementCount sql with
  | .error error => (.error error, server)
  | .ok _ => (.ok (server.rows sql), server)

end Link

end NestedTx
