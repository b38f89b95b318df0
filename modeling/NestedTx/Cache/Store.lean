import NestedTx.Cache.Error
import NestedTx.Duration

/-!
A store of byte strings by key, each for a limited time. An entry whose time is over is not found any
more, and is removed when it is looked for or when the store is purged. Times of day are durations
since the start of the clock.
-/

namespace NestedTx

structure CacheEntry where
  data : ByteArray
  expiresAt : Option Duration

structure Store where
  entries : List (String × CacheEntry)

def lastInstant : Duration := ⟨UInt64.size / 2 * 1000000000 - 1⟩

def instantAfter (now ttl : Duration) : Option Duration :=
  if lastInstant < now + ttl then none else some (now + ttl)

def CacheEntry.isLive (now : Duration) (entry : CacheEntry) : Bool :=
  match entry.expiresAt with
  | some time => now < time
  | none => true

inductive Finding where
  | live (data : ByteArray)
  | expired
  | absent

namespace Store

def empty : Store := ⟨[]⟩

def size (store : Store) : Nat := store.entries.length

def find (key : String) (now : Duration) (store : Store) : Finding :=
  match store.entries.lookup key with
  | some entry => if entry.isLive now then .live entry.data else .expired
  | none => .absent

def remove (key : String) (store : Store) : Store :=
  ⟨store.entries.filter fun e => e.1 ≠ key⟩

def evict (key : String) (now : Duration) (store : Store) : Store :=
  match store.find key now with
  | .expired => store.remove key
  | _ => store

def get (key : String) (now : Duration) (store : Store) : Option ByteArray × Store :=
  match store.find key now with
  | .live data => (some data, store)
  | .expired => (none, store.evict key now)
  | .absent => (none, store)

def set (key : String) (data : ByteArray) (ttl now : Duration) (store : Store) :
    Except CacheError Unit × Store :=
  if key = "" then (.error (.invalidKey "empty key"), store)
  else (.ok (), ⟨(key, ⟨data, instantAfter now ttl⟩) :: (store.remove key).entries⟩)

def purge (now : Duration) (store : Store) : Nat × Store :=
  let kept := store.entries.filter fun e => e.2.isLive now
  (store.entries.length - kept.length, ⟨kept⟩)

end Store

structure Cache where
  store : Store
  failGet : Bool
  failSet : Bool

namespace Cache

def outOfReach : CacheError := .backend "unreachable"

def get (key : String) (now : Duration) (cache : Cache) :
    Except CacheError (Option ByteArray) × Cache :=
  if cache.failGet then (.error outOfReach, cache)
  else
    match cache.store.get key now with
    | (data, store) => (.ok data, { cache with store })

def set (key : String) (data : ByteArray) (ttl now : Duration) (cache : Cache) :
    Except CacheError Unit × Cache :=
  if cache.failSet then (.error outOfReach, cache)
  else
    match cache.store.set key data ttl now with
    | (result, store) => (result, { cache with store })

def delete (key : String) (cache : Cache) : Cache :=
  { cache with store := cache.store.remove key }

def purge (now : Duration) (cache : Cache) : Nat × Cache :=
  match cache.store.purge now with
  | (count, store) => (count, { cache with store })

end Cache

end NestedTx
