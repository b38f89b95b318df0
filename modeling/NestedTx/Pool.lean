import NestedTx.Server.Basic

/-!
Connections to a server, the pool that lends them, and transactions that hold one. A connection goes
back to the pool when its holder is done with it; one whose open transaction cannot be rolled back is
thrown away instead.
-/

namespace NestedTx

structure Connection where
  id : Nat
  pooled : Bool
  link : Link
deriving DecidableEq, Repr

structure Pool where
  limit : Nat
  created : Nat
  nextId : Nat
  idle : List (Nat × Link)
deriving DecidableEq, Repr

def Pool.empty (limit : Nat) : Pool := ⟨limit, 0, 1, []⟩

structure Backend where
  server : Server
  pool : Pool

namespace Backend

def checkout (backend : Backend) : Except DriverError Connection × Backend :=
  match backend.pool.idle with
  | (id, link) :: rest =>
    (.ok ⟨id, true, link⟩, { backend with pool := { backend.pool with idle := rest } })
  | [] =>
    if backend.pool.limit ≤ backend.pool.created then
      (.error (.poolExhausted backend.pool.limit), backend)
    else
      match backend.server.connect with
      | (.error error, server) => (.error error, { backend with server })
      | (.ok link, server) =>
        (.ok ⟨backend.pool.nextId, true, link⟩,
          ⟨server, { backend.pool with
            created := backend.pool.created + 1
            nextId := backend.pool.nextId + 1 }⟩)

def discard (connection : Connection) (backend : Backend) : Backend :=
  if connection.pooled then
    { backend with pool := { backend.pool with created := backend.pool.created - 1 } }
  else backend

def giveBack (connection : Connection) (backend : Backend) : Backend :=
  if connection.pooled then
    { backend with pool := { backend.pool with
      idle := backend.pool.idle ++ [(connection.id, connection.link)] } }
  else backend

def release (connection : Connection) (backend : Backend) : Backend :=
  if connection.link.inTransaction then
    match connection.link.rollback backend.server with
    | (.error _, _, server) => { backend with server }.discard connection
    | (.ok _, link, server) => { backend with server }.giveBack { connection with link }
  else backend.giveBack connection

end Backend

namespace Connection

def standalone (link : Link) : Connection := ⟨0, false, link⟩

def ping (connection : Connection) (backend : Backend) : Except DriverError Unit × Backend :=
  match connection.link.ping backend.server with
  | (result, server) => (result, { backend with server })

def execute (sql : String) (connection : Connection) (backend : Backend) :
    Except DriverError Nat × Connection × Backend :=
  match connection.link.execute sql backend.server with
  | (result, link, server) => (result, { connection with link }, { backend with server })

def fetch (sql : String) (connection : Connection) (backend : Backend) :
    Except DriverError (List Row) × Backend :=
  match connection.link.fetch sql backend.server with
  | (result, server) => (result, { backend with server })

end Connection

structure ServerTransaction where
  connection : Connection
  done : Bool
deriving DecidableEq, Repr

namespace ServerTransaction

def begin (connection : Connection) (backend : Backend) :
    Except DriverError ServerTransaction × Backend :=
  match connection.link.begin backend.server with
  | (.error error, link, server) =>
    (.error error, { backend with server }.release { connection with link })
  | (.ok _, link, server) => (.ok ⟨{ connection with link }, false⟩, { backend with server })

def commit (tx : ServerTransaction) (backend : Backend) :
    Except DriverError Unit × ServerTransaction × Backend :=
  if tx.done then (.error .closed, tx, backend)
  else
    match tx.connection.link.commit backend.server with
    | (.error error, link, server) =>
      (.error error, { tx with connection := { tx.connection with link } }, { backend with server })
    | (.ok _, link, server) => (.ok (), ⟨{ tx.connection with link }, true⟩, { backend with server })

def rollback (tx : ServerTransaction) (backend : Backend) :
    Except DriverError Unit × ServerTransaction × Backend :=
  if tx.done then (.error .closed, tx, backend)
  else
    match tx.connection.link.rollback backend.server with
    | (.error error, link, server) =>
      (.error error, { tx with connection := { tx.connection with link } }, { backend with server })
    | (.ok _, link, server) => (.ok (), ⟨{ tx.connection with link }, true⟩, { backend with server })

def execute (sql : String) (tx : ServerTransaction) (backend : Backend) :
    Except DriverError Nat × ServerTransaction × Backend :=
  if tx.done then (.error .closed, tx, backend)
  else
    match tx.connection.execute sql backend with
    | (result, connection, backend) => (result, { tx with connection }, backend)

def fetch (sql : String) (tx : ServerTransaction) (backend : Backend) :
    Except DriverError (List Row) × Backend :=
  if tx.done then (.error .closed, backend) else tx.connection.fetch sql backend

end ServerTransaction

end NestedTx
