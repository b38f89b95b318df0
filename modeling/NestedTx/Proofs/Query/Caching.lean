import Mathlib.Data.List.Permutation
import NestedTx.Proofs.Json.Reading
import NestedTx.Proofs.Query.Key

namespace NestedTx

namespace Store

variable {key : String} {now : Duration} {store : Store} {data : ByteArray}

theorem exists_of_live (live : store.find key now = .live data) :
    ∃ e ∈ store.entries, e.1 = key ∧ e.2.data = data := by
  rw [find] at live
  split at live
  · rename_i entry found
    obtain ⟨before, behind, he, _⟩ := List.lookup_eq_some_iff.mp found
    split at live
    · cases live
      exact ⟨(key, entry), by rw [he]; exact List.mem_append_right _ List.mem_cons_self, rfl, rfl⟩
    · cases live
  · cases live

theorem mem_of_mem_evict {e : String × CacheEntry} (mem : e ∈ (store.evict key now).entries) :
    e ∈ store.entries := by
  rw [evict] at mem
  split at mem
  · exact List.mem_of_mem_filter mem
  · exact mem

theorem mem_of_mem_get {e : String × CacheEntry} (mem : e ∈ (store.get key now).2.entries) :
    e ∈ store.entries := by
  rw [get] at mem
  split at mem
  · exact mem
  · exact mem_of_mem_evict mem
  · exact mem

theorem exists_of_get (found : (store.get key now).1 = some data) :
    ∃ e ∈ store.entries, e.1 = key ∧ e.2.data = data := by
  rw [get] at found
  split at found
  · rename_i live
    cases found
    exact exists_of_live live
  · cases found
  · cases found

theorem mem_of_mem_set {ttl : Duration} {e : String × CacheEntry}
    (mem : e ∈ (store.set key data ttl now).2.entries) :
    e ∈ store.entries ∨ e.1 = key ∧ e.2.data = data := by
  rw [set] at mem
  split at mem
  · exact .inl mem
  · rcases List.mem_cons.mp mem with rfl | mem
    · exact .inr ⟨rfl, rfl⟩
    · exact .inl (List.mem_of_mem_filter mem)

end Store

namespace Cache

variable {key : String} {now : Duration} {cache : Cache} {e : String × CacheEntry}

theorem mem_of_mem_getStore (mem : e ∈ (cache.get key now).2.store.entries) :
    e ∈ cache.store.entries := by
  rw [get] at mem
  split at mem
  · exact mem
  · exact Store.mem_of_mem_get mem

theorem mem_of_mem_rows (mem : e ∈ (cache.rows? key now).2.store.entries) : e ∈ cache.store.entries := by
  have kept : e ∈ (cache.get key now).2.store.entries := by
    rw [rows?] at mem
    split at mem
    · rename_i hg
      rw [hg]
      exact mem
    · rename_i hg
      rw [hg]
      exact mem
  exact mem_of_mem_getStore kept

theorem exists_of_rows {rows : List Row} (found : (cache.rows? key now).1 = some rows) :
    ∃ e ∈ cache.store.entries, e.1 = key ∧ decodeRows e.2.data = some rows := by
  rw [rows?, get] at found
  split at found
  · rename_i data _ hg
    split at hg
    · cases hg
    · obtain ⟨held, _⟩ := Prod.mk.inj hg
      obtain ⟨e, mem, hkey, rfl⟩ := Store.exists_of_get (Except.ok.inj held)
      exact ⟨e, mem, hkey, found⟩
  · cases found

theorem mem_of_mem_set {data : ByteArray} {ttl : Duration}
    (mem : e ∈ (cache.set key data ttl now).2.store.entries) :
    e ∈ cache.store.entries ∨ e.1 = key ∧ e.2.data = data := by
  rw [set] at mem
  split at mem
  · exact .inl mem
  · exact Store.mem_of_mem_set mem

end Cache

abbrev Source (σ : Type) := String → List Json.Value → σ → Except QueryError (List Row) × σ

abbrev Answers := String → List Json.Value → Except QueryError (List Row)

structure CachedQuery where
  sql : String
  params : List Json.Value
  ttl : Duration
  readAt : Duration
  filledAt : Duration
  failGet : Bool
  failSet : Bool

def ReadsBack (rows : List Row) : Prop :=
  ∀ rows', decodeRows (encodeRows rows) = some rows' → rows' = rows

theorem decodeRows_encodeRows {rows : List Row} {items : List Json.Value}
    (parsed : Json.Value.parse (Json.Value.array (rows.map Row.toJson)).render = .ok (.array items)) :
    decodeRows (encodeRows rows) = rowsOfItems items := by
  rw [decodeRows, encodeRows, fromUTF8_toUTF8]
  simp only [parsed]

namespace CachedQuery

variable {σ : Type}

def key (query : CachedQuery) : String := cacheKey query.sql query.params

def cacheOn (query : CachedQuery) (store : Store) : Cache := ⟨store, query.failGet, query.failSet⟩

def run (ask : Source σ) (query : CachedQuery) (store : Store) (s : σ) :
    Except QueryError (List Row) × Store × σ :=
  match Cache.fetchThrough (ask query.sql query.params) none query.sql query.params query.ttl
    query.readAt query.filledAt (query.cacheOn store) s with
  | (result, cache, s) => (result, cache.store, s)

def after (ask : Source σ) : List CachedQuery → Store → σ → Store × σ
  | [], store, s => (store, s)
  | query :: rest, store, s => after ask rest (query.run ask store s).2.1 (query.run ask store s).2.2

def direct (answers : Answers) (query : CachedQuery) : Except QueryError (List Row) :=
  match kindOf query.sql with
  | .error error => .error error
  | .ok _ => answers (Text.trim query.sql) query.params

end CachedQuery

def Source.counted {σ : Type} (ask : Source σ) : Source (σ × Nat) := fun sql params s =>
  match ask sql params s.1 with
  | (result, next) => (result, next, s.2 + 1)

/-- Each entry holds what the source says about a query with the key of the entry. -/
def Store.Faithful (answers : Answers) (queries : List CachedQuery) (store : Store) : Prop :=
  ∀ e ∈ store.entries, ∃ query ∈ queries, ∃ rows, e.1 = query.key ∧
    answers (Text.trim query.sql) query.params = .ok rows ∧ e.2.data = encodeRows rows

variable {σ : Type} {ask : Source σ} {answers : Answers} {queries : List CachedQuery}
  {query : CachedQuery} {store : Store}

namespace Store.Faithful

theorem empty : Store.empty.Faithful answers queries := nofun

theorem of_subset {store' : Store} (faithful : store.Faithful answers queries)
    (subset : ∀ e ∈ store'.entries, e ∈ store.entries) : store'.Faithful answers queries :=
  fun e mem => faithful e (subset e mem)

theorem answers_of_rows (faithful : store.Faithful answers queries)
    (finite : ∀ q ∈ queries, Json.Finite (Json.numbersOf q.params))
    (readsBack : ∀ q ∈ queries, ∀ rows, answers (Text.trim q.sql) q.params = .ok rows → ReadsBack rows)
    (mem : query ∈ queries) {rows : List Row} {now : Duration}
    (found : ((query.cacheOn store).rows? query.key now).1 = some rows) :
    answers (Text.trim query.sql) query.params = .ok rows := by
  obtain ⟨e, held, hkey, decoded⟩ := Cache.exists_of_rows found
  obtain ⟨query', mem', rows', hkey', answer, data⟩ := faithful e held
  rw [data] at decoded
  rw [readsBack query' mem' rows' answer rows decoded]
  obtain ⟨texts, params⟩ :=
    cacheKey_inj (finite query mem) (finite query' mem') (hkey.symm.trans hkey')
  rw [texts, params]
  exact answer

end Store.Faithful

namespace CachedQuery

theorem run_step (steady : ∀ sql params s, (ask sql params s).1 = answers (Text.trim sql) params)
    (finite : ∀ q ∈ queries, Json.Finite (Json.numbersOf q.params))
    (readsBack : ∀ q ∈ queries, ∀ rows, answers (Text.trim q.sql) q.params = .ok rows → ReadsBack rows)
    (faithful : store.Faithful answers queries) (mem : query ∈ queries) (s : σ) :
    (query.run ask store s).1 = query.direct answers ∧
      (query.run ask store s).2.1.Faithful answers queries ∧
      ((query.run ask store s).2.2 = s ∨
        (query.run ask store s).2.2 = (ask query.sql query.params s).2) := by
  have told := steady query.sql query.params s
  simp only [run, Cache.fetchThrough, direct, Option.getD_none]
  cases kindOf query.sql with
  | error error => exact ⟨rfl, faithful, .inl rfl⟩
  | ok kind =>
    simp only
    split
    · exact ⟨told, faithful, .inr rfl⟩
    · have kept (e : String × CacheEntry)
          (held : e ∈ ((query.cacheOn store).rows? query.key query.readAt).2.store.entries) :
          e ∈ store.entries := Cache.mem_of_mem_rows held
      have hit (rows : List Row)
          (found : ((query.cacheOn store).rows? query.key query.readAt).1 = some rows) :
          answers (Text.trim query.sql) query.params = .ok rows :=
        faithful.answers_of_rows finite readsBack mem found
      rw [key] at kept hit
      cases hr : (query.cacheOn store).rows? (cacheKey query.sql query.params) query.readAt with
      | mk found cache =>
        rw [hr] at kept hit
        cases found with
        | some rows => exact ⟨(hit rows rfl).symm, faithful.of_subset kept, .inl rfl⟩
        | none =>
          cases ha : ask query.sql query.params s with
          | mk result next =>
            rw [ha] at told
            cases result with
            | error error => exact ⟨told, faithful.of_subset kept, .inr rfl⟩
            | ok rows =>
              refine ⟨told, ?_, .inr rfl⟩
              intro e stored
              rcases Cache.mem_of_mem_set stored with held | ⟨hkey, data⟩
              · exact faithful e (kept e held)
              · exact ⟨query, mem, rows, hkey, told.symm, data⟩

theorem faithful_after (steady : ∀ sql params s, (ask sql params s).1 = answers (Text.trim sql) params)
    (finite : ∀ q ∈ queries, Json.Finite (Json.numbersOf q.params))
    (readsBack : ∀ q ∈ queries, ∀ rows, answers (Text.trim q.sql) q.params = .ok rows → ReadsBack rows)
    (faithful : store.Faithful answers queries) (earlier : List CachedQuery)
    (among : ∀ q ∈ earlier, q ∈ queries) (s : σ) :
    (after ask earlier store s).1.Faithful answers queries := by
  induction earlier generalizing store s with
  | nil => exact faithful
  | cons query rest ih =>
    obtain ⟨_, faithful, _⟩ :=
      run_step steady finite readsBack faithful (among query List.mem_cons_self) s
    exact ih faithful (fun q mem => among q (List.mem_cons_of_mem _ mem)) _

theorem kindOf_ne_cache (sql : String) (cause : CacheError) : kindOf sql ≠ .error (.cache cause) := by
  rw [kindOf]
  cases Sql.classify sql with
  | error error => cases error <;> nofun
  | ok kind => nofun

theorem steady_counted (steady : ∀ sql params s, (ask sql params s).1 = answers (Text.trim sql) params)
    (sql : String) (params : List Json.Value) (s : σ × Nat) :
    (ask.counted sql params s).1 = answers (Text.trim sql) params :=
  steady sql params s.1

/-- Through a cache that was empty at first, and that may fail at any time, each query is told what it
would be told without it. The source is asked once at most, and no failure of the cache is seen. -/
theorem transparent (steady : ∀ sql params s, (ask sql params s).1 = answers (Text.trim sql) params)
    (earlier : List CachedQuery) (query : CachedQuery)
    (finite : ∀ q ∈ query :: earlier, Json.Finite (Json.numbersOf q.params))
    (readsBack : ∀ q ∈ query :: earlier, ∀ rows,
      answers (Text.trim q.sql) q.params = .ok rows → ReadsBack rows) (s : σ) :
    let before := after ask.counted earlier .empty (s, 0)
    let told := query.run ask.counted before.1 before.2
    told.1 = query.direct answers ∧ told.2.2.2 ≤ before.2.2 + 1 ∧
      ∀ cause, told.1 = .error (.cache cause) →
        answers (Text.trim query.sql) query.params = .error (.cache cause) := by
  intro before told
  have faithful : before.1.Faithful answers (query :: earlier) :=
    faithful_after (steady_counted steady) finite readsBack .empty earlier
      (fun q mem => List.mem_cons_of_mem _ mem) (s, 0)
  obtain ⟨result, _, asked⟩ := run_step (steady_counted steady) finite readsBack faithful
    List.mem_cons_self before.2
  refine ⟨result, ?_, ?_⟩
  · rcases asked with he | he
    · rw [he]
      exact Nat.le_succ _
    · rw [he]
      exact Nat.le_refl _
  · intro cause failed
    rw [result, direct] at failed
    split at failed
    · rename_i error hk
      rw [Except.error.inj failed] at hk
      exact absurd hk (kindOf_ne_cache query.sql cause)
    · exact failed

theorem transparent_hit :
    let answers : Answers := fun _ params => .ok [[("given", .array params)]]
    let ask : Source Unit := fun sql params s => (answers (Text.trim sql) params, s)
    let first : CachedQuery := ⟨" SELECT 1", [.bool true], ⟨10⟩, ⟨0⟩, ⟨1⟩, true, false⟩
    let second : CachedQuery := ⟨"SELECT 1\n", [.bool true], ⟨10⟩, ⟨5⟩, ⟨6⟩, false, false⟩
    let before := after ask.counted [first] .empty ((), 0)
    let told := second.run ask.counted before.1 before.2
    told.1 = second.direct answers ∧ before.2.2 = 1 ∧ told.2.2.2 = 1 := by
  intro answers ask first second before told
  have finite : ∀ q ∈ [second, first], Json.Finite (Json.numbersOf q.params) := by
    intro q mem
    rcases List.mem_pair.mp mem with rfl | rfl <;> decide
  have readsBack : ∀ q ∈ [second, first], ∀ rows,
      answers (Text.trim q.sql) q.params = .ok rows → ReadsBack rows := by
    have given : decodeRows (encodeRows [[("given", .array [.bool true])]]) =
        some [[("given", .array [.bool true])]] := by
      have parsed : Json.Value.parse
          (Json.Value.array ([[("given", .array [.bool true])]].map Row.toJson)).render =
            .ok (.array [.object [("given", .array [.bool true])]]) := by cbv
      rw [decodeRows_encodeRows parsed]
      rfl
    intro q mem rows answer rows' decoded
    rcases List.mem_pair.mp mem with rfl | rfl <;>
      cases answer <;> exact Option.some.inj (decoded.symm.trans given)
  have steady (sql : String) (params : List Json.Value) (s : Unit) :
      (ask sql params s).1 = answers (Text.trim sql) params := rfl
  obtain ⟨result, asked, _⟩ := transparent steady [first] second finite readsBack ()
  exact ⟨result, by decide +kernel, by decide +kernel⟩

end CachedQuery

end NestedTx
