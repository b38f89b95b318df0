import NestedTx.Cache.Store
import NestedTx.Json.Printer
import NestedTx.Json.Reader
import NestedTx.Query.Error

namespace NestedTx

def Row.toJson (row : Row) : Json.Value := .object row

def encodeRows (rows : List Row) : ByteArray :=
  (Json.Value.array (rows.map Row.toJson)).render.toUTF8

def rowsOfItems : List Json.Value → Option (List Row)
  | [] => some []
  | .object members :: rest => (rowsOfItems rest).map (members :: ·)
  | _ :: _ => none

def decodeRows (data : ByteArray) : Option (List Row) :=
  match String.fromUTF8? data with
  | none => none
  | some text =>
    match Json.Value.parse text with
    | .ok (.array items) => rowsOfItems items
    | _ => none

def cacheKey (sql : String) (params : List Json.Value) : String :=
  "txnest:" ++ Text.trim sql ++ ":" ++ (Json.Value.array params).render

namespace Cache

def rows? (key : String) (now : Duration) (cache : Cache) : Option (List Row) × Cache :=
  match cache.get key now with
  | (.ok (some data), cache) => (decodeRows data, cache)
  | (_, cache) => (none, cache)

/-- Ask for the rows of a query, but for a read look into the cache first, and keep there what was
asked for. The cache is looked into at one time, and filled at another. -/
def fetchThrough {σ : Type} (ask : σ → Except QueryError (List Row) × σ) (key : Option String)
    (sql : String) (params : List Json.Value) (ttl readAt filledAt : Duration) (cache : Cache)
    (s : σ) : Except QueryError (List Row) × Cache × σ :=
  match kindOf sql with
  | .error error => (.error error, cache, s)
  | .ok kind =>
    if !kind.isCacheable then
      match ask s with
      | (result, s) => (result, cache, s)
    else
      let key := key.getD (cacheKey sql params)
      match cache.rows? key readAt with
      | (some rows, cache) => (.ok rows, cache, s)
      | (none, cache) =>
        match ask s with
        | (.error error, s) => (.error error, cache, s)
        | (.ok rows, s) => (.ok rows, (cache.set key (encodeRows rows) ttl filledAt).2, s)

end Cache

end NestedTx
