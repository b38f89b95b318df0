import NestedTx.Database.Error
import NestedTx.Transaction.Basic

namespace NestedTx

structure Settings where
  strict : Bool
  leakGrace : Duration
  maxConnections : Nat
  ping : Backoff
  verbose : Bool
deriving DecidableEq

namespace Settings

def standard : Settings := ⟨false, .ofSeconds 60, 10, .standard, false⟩

def withStrict (value : Bool) (settings : Settings) : Settings := { settings with strict := value }

def withVerbose (value : Bool) (settings : Settings) : Settings := { settings with verbose := value }

def withLeakGrace (grace : Duration) (settings : Settings) : Settings :=
  { settings with leakGrace := grace }

def withMaxConnections (limit : Nat) (settings : Settings) : Settings :=
  { settings with maxConnections := limit }

def withPing (policy : Backoff) (settings : Settings) : Settings := { settings with ping := policy }

def forTransactions (settings : Settings) : TransactionSettings :=
  ⟨settings.strict, settings.leakGrace, settings.verbose⟩

def validate (settings : Settings) : Except DatabaseError Unit :=
  if settings.maxConnections = 0 then
    .error (.invalidSettings "max_connections must be at least 1")
  else if settings.strict && settings.leakGrace.isZero then
    .error (.invalidSettings "leak_grace must be positive in strict mode")
  else .ok ()

def fields : List (Json.Field Settings) :=
  [.of "strict" Json.readBool fun settings value => { settings with strict := value },
    .of "leak_grace_ms" Json.readNat fun settings n => { settings with leakGrace := .ofMillis n },
    .of "max_connections" Json.readNat fun settings n => { settings with maxConnections := n },
    .nested "ping" Backoff.fields .standard fun settings policy => { settings with ping := policy },
    .of "verbose" Json.readBool fun settings value => { settings with verbose := value }]

def read (text : String) : Except Json.ReadError Settings :=
  (Json.readRecord fields standard).run text

def toJson (settings : Settings) : Json.Value :=
  .ofMembers
    [("strict", .bool settings.strict),
      ("leak_grace_ms", .ofNat settings.leakGrace.millis),
      ("max_connections", .ofNat settings.maxConnections),
      ("ping", settings.ping.toJson),
      ("verbose", .bool settings.verbose)]

def load (file : Option ByteArray) : Except DatabaseError Settings :=
  match file with
  | none => .error (.input .notFound)
  | some bytes =>
    match String.fromUTF8? bytes with
    | none => .error (.input .notText)
    | some text =>
      match read text with
      | .error error => .error (.settingsText error)
      | .ok settings => settings.validate.map fun _ => settings

end Settings

end NestedTx
