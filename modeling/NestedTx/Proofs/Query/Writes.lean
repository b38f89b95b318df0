import NestedTx.Proofs.Query.Caching

namespace NestedTx

namespace Sql

variable {statement : Statement} {statements : List Statement} {sql : String}

def Statement.isQuery : Statement → Bool
  | .query _ => true
  | _ => false

def Statement.deletes : Statement → Bool
  | .delete _ => true
  | .explain statement => statement.deletes
  | .prepare _ statement => statement.deletes
  | _ => false

def startsControl (sql : String) : Bool :=
  controlWords.contains (Text.upperKey (Text.firstWord (Text.statementChars sql.toList)))

def changes (sql : String) : Bool :=
  match Script.parse (Text.statementChars sql.toList) with
  | .ok statements => statements.any Statement.changes
  | .error _ => false

theorem changes_iff : changes sql = true ↔
    ∃ statements, Script.parse (Text.statementChars sql.toList) = .ok statements ∧
      ∃ statement ∈ statements, statement.changes = true := by
  rw [changes]
  cases Script.parse (Text.statementChars sql.toList) with
  | error error => simp
  | ok statements => simp [List.any_eq_true]

theorem Statement.kind_eq_read_iff : statement.kind = .read ↔ statement.isQuery = true := by
  cases statement <;> simp [Statement.kind, Statement.isQuery]

theorem Statement.isQuery_of_deletes (deletes : statement.deletes = true) :
    statement.isQuery = false := by
  cases statement <;> first | rfl | cases deletes

theorem Kind.ofScript_eq_read_iff {kinds : List Kind} :
    Kind.ofScript kinds = .read ↔ ∀ kind ∈ kinds, kind = .read := by
  constructor
  · intro read
    rw [Kind.ofScript] at read
    split at read
    · cases read
    split at read
    · cases read
    split at read
    · cases read
    split at read
    · rename_i all
      simpa using all
    · cases read
  · intro all
    have none (kind : Kind) (ne : kind ≠ .read) : kinds.contains kind = false := by
      rw [Bool.eq_false_iff]
      intro mem
      exact ne (all kind (List.contains_iff_mem.mp mem))
    rw [Kind.ofScript, none .transactionControl nofun, none .schema nofun, none .write nofun,
      if_pos (List.all_eq_true.mpr fun kind mem => by rw [all kind mem]; rfl)]
    rfl

theorem ofScript_kinds_eq_read_iff : Kind.ofScript (statements.map Statement.kind) = .read ↔
    ∀ statement ∈ statements, statement.isQuery = true := by
  rw [Kind.ofScript_eq_read_iff, List.forall_mem_map]
  exact forall₂_congr fun statement _ => Statement.kind_eq_read_iff

theorem classify_of_parse
    (parsed : Script.parse (Text.statementChars sql.toList) = .ok statements)
    (ne : statements ≠ []) :
    classify sql = .ok (if startsControl sql then .transactionControl
      else Kind.ofScript (statements.map Statement.kind)) := by
  have some : (Text.statementChars sql.toList).isEmpty = false := by
    cases h : Text.statementChars sql.toList with
    | nil =>
      rw [h] at parsed
      exact absurd (Except.ok.inj parsed).symm ne
    | cons => rfl
  rw [classify, some, startsControl]
  simp only [Bool.false_eq_true, if_false, parsed]
  split <;> rfl

end Sql

theorem kindOf_of_parse {sql : String} {statements : List Sql.Statement}
    (parsed : Sql.Script.parse (Text.statementChars sql.toList) = .ok statements)
    (ne : statements ≠ []) :
    kindOf sql = .ok (if Sql.startsControl sql then .transactionControl
      else Sql.Kind.ofScript (statements.map Sql.Statement.kind)) := by
  rw [kindOf, Sql.classify_of_parse parsed ne]
  rfl

structure KeyedQuery extends CachedQuery where
  given : Option String

namespace KeyedQuery

variable {σ : Type} {ask : Source σ} {call first second : KeyedQuery} {store : Store} {s : σ}
  {rows : List Row}

def key (call : KeyedQuery) : String := call.given.getD call.toCachedQuery.key

def run (ask : Source σ) (call : KeyedQuery) (store : Store) (s : σ) :
    Except QueryError (List Row) × Store × σ :=
  match Cache.fetchThrough (ask call.sql call.params) call.given call.sql call.params call.ttl
    call.readAt call.filledAt (call.cacheOn store) s with
  | (result, cache, s) => (result, cache.store, s)

def runAll (ask : Source σ) : List KeyedQuery → Store → σ →
    List (Except QueryError (List Row)) × Store × σ
  | [], store, s => ([], store, s)
  | call :: rest, store, s =>
    match call.run ask store s with
    | (result, store, s) =>
      match runAll ask rest store s with
      | (results, store, s) => (result :: results, store, s)

def askAll (ask : Source σ) : List KeyedQuery → σ → List (Except QueryError (List Row)) × σ
  | [], s => ([], s)
  | call :: rest, s =>
    match ask call.sql call.params s with
    | (result, s) =>
      match askAll ask rest s with
      | (results, s) => (result :: results, s)

theorem run_of_ne_read {kind : Sql.Kind} (classified : kindOf call.sql = .ok kind)
    (ne : kind ≠ .read) (ask : Source σ) (store : Store) (s : σ) :
    call.run ask store s =
      ((ask call.sql call.params s).1, store, (ask call.sql call.params s).2) := by
  have asks : (!kind.isCacheable) = true := by
    rw [Sql.Kind.isCacheable, Bool.not_eq_true', beq_eq_false_iff_ne]
    exact ne
  simp only [run, Cache.fetchThrough, classified, asks, if_true]
  rfl

theorem runAll_of_ne_read {calls : List KeyedQuery}
    (ne : ∀ call ∈ calls, ∃ kind, kindOf call.sql = .ok kind ∧ kind ≠ .read)
    (ask : Source σ) (store : Store) (s : σ) :
    runAll ask calls store s = ((askAll ask calls s).1, store, (askAll ask calls s).2) := by
  induction calls generalizing s with
  | nil => rfl
  | cons call rest ih =>
    obtain ⟨kind, classified, other⟩ := ne call List.mem_cons_self
    rw [runAll, run_of_ne_read classified other ask store s]
    simp only
    rw [ih (fun call mem => ne call (List.mem_cons_of_mem _ mem)), askAll]

structure Follows (first : KeyedQuery) (rows : List Row) (second : KeyedQuery) : Prop where
  key : second.key = first.key
  ne_empty : first.key ≠ ""
  filled : first.failSet = false
  reached : second.failGet = false
  lasts : CacheEntry.isLive second.readAt
    ⟨encodeRows rows, instantAfter first.filledAt first.ttl⟩ = true
  decoded : decodeRows (encodeRows rows) = some rows

theorem run_of_miss (read : kindOf call.sql = .ok .read)
    (miss : ((call.cacheOn store).rows? call.key call.readAt).1 = none)
    (answer : (ask call.sql call.params s).1 = .ok rows) :
    call.run ask store s = (.ok rows,
      (((call.cacheOn store).rows? call.key call.readAt).2.set call.key (encodeRows rows) call.ttl
        call.filledAt).2.store, (ask call.sql call.params s).2) := by
  rw [key, CachedQuery.key] at miss ⊢
  simp only [run, Cache.fetchThrough, read, Sql.Kind.isCacheable, beq_self_eq_true, Bool.not_true,
    Bool.false_eq_true, if_false]
  cases hr : (call.cacheOn store).rows? (call.given.getD (cacheKey call.sql call.params))
      call.readAt with
  | mk found cache =>
    rw [hr] at miss
    cases miss
    cases ha : ask call.sql call.params s with
    | mk result next =>
      rw [ha] at answer
      cases answer
      rfl

theorem run_of_hit (read : kindOf call.sql = .ok .read)
    (hit : (call.cacheOn store).rows? call.key call.readAt = (some rows, call.cacheOn store)) :
    call.run ask store s = (.ok rows, store, s) := by
  rw [key, CachedQuery.key] at hit
  simp only [run, Cache.fetchThrough, read, Sql.Kind.isCacheable, beq_self_eq_true, Bool.not_true,
    Bool.false_eq_true, if_false, hit]
  rfl

end KeyedQuery

theorem Store.find_set {key : String} (ne : key ≠ "") (data : ByteArray) (ttl filledAt now : Duration)
    (store : Store) (live : CacheEntry.isLive now ⟨data, instantAfter filledAt ttl⟩ = true) :
    (store.set key data ttl filledAt).2.find key now = .live data := by
  rw [Store.set, if_neg ne, Store.find]
  simp only [List.lookup_cons, beq_self_eq_true]
  rw [if_pos live]

theorem Cache.rows_of_set {cache : Cache} {key : String} {rows : List Row}
    {ttl filledAt readAt : Duration} (ne : key ≠ "") (filled : cache.failSet = false)
    (lasts : CacheEntry.isLive readAt ⟨encodeRows rows, instantAfter filledAt ttl⟩ = true)
    (decoded : decodeRows (encodeRows rows) = some rows) (failSet : Bool) :
    let store := (cache.set key (encodeRows rows) ttl filledAt).2.store
    Cache.rows? key readAt ⟨store, false, failSet⟩ = (some rows, ⟨store, false, failSet⟩) := by
  intro store
  have kept : store = (cache.store.set key (encodeRows rows) ttl filledAt).2 := by
    simp only [store, Cache.set, filled, Bool.false_eq_true, if_false]
  have found : store.get key readAt = (some (encodeRows rows), store) := by
    rw [Store.get, kept, Store.find_set ne _ ttl filledAt readAt cache.store lasts]
  simp only [Cache.rows?, Cache.get, Bool.false_eq_true, if_false, found, decoded]

theorem Cache.failSet_rows (key : String) (now : Duration) (cache : Cache) :
    (cache.rows? key now).2.failSet = cache.failSet := by
  have kept : (cache.get key now).2.failSet = cache.failSet := by
    rw [Cache.get]
    split <;> rfl
  rw [Cache.rows?]
  split <;> rename_i held <;> rw [held] at kept <;> exact kept

namespace KeyedQuery

variable {σ : Type} {first second : KeyedQuery} {rows : List Row}

theorem Follows.run_eq (follows : first.Follows rows second)
    (reads : kindOf first.sql = .ok .read) (reads' : kindOf second.sql = .ok .read)
    (ask : Source σ) (store : Store) (s : σ)
    (miss : ((first.cacheOn store).rows? first.key first.readAt).1 = none)
    (answer : (ask first.sql first.params s).1 = .ok rows) :
    let told := first.run ask store s
    told.1 = .ok rows ∧ second.run ask told.2.1 told.2.2 = (.ok rows, told.2.1, told.2.2) := by
  intro told
  have he : told = _ := run_of_miss reads miss answer
  have filled : ((first.cacheOn store).rows? first.key first.readAt).2.failSet = false := by
    rw [Cache.failSet_rows]
    exact follows.filled
  refine ⟨by rw [he], run_of_hit reads' ?_⟩
  rw [CachedQuery.cacheOn, follows.reached, follows.key, he]
  exact Cache.rows_of_set follows.ne_empty filled follows.lasts follows.decoded second.failSet

/-- A text that changes rows, and that does not start with a word of transaction control, is taken for a
read if it is made of queries only; it then has a change inside of a query, but no deletion. Where it is
not taken for a read, each call with it is run, and neither reads nor fills the store. Where it is, a
call is told what an earlier one was told, and the text is not run again. -/
theorem changing_calls {sql : String} {statements : List Sql.Statement}
    (parsed : Sql.Script.parse (Text.statementChars sql.toList) = .ok statements)
    (changing : ∃ statement ∈ statements, statement.changes = true) (ask : Source σ) (store : Store)
    (s : σ) :
    (kindOf sql = .ok .read ↔ Sql.startsControl sql = false ∧
      ∀ statement ∈ statements, statement.isQuery = true) ∧
    (kindOf sql = .ok .read → ∃ query, .query query ∈ statements ∧ query.changes = true) ∧
    ((∃ statement ∈ statements, statement.deletes = true) → kindOf sql ≠ .ok .read) ∧
    (kindOf sql ≠ .ok .read → ∀ calls : List KeyedQuery, (∀ call ∈ calls, call.sql = sql) →
      runAll ask calls store s = ((askAll ask calls s).1, store, (askAll ask calls s).2)) ∧
    (kindOf sql = .ok .read → ∀ (first second : KeyedQuery) (rows : List Row), first.sql = sql →
      second.sql = sql → first.Follows rows second →
      ((first.cacheOn store).rows? first.key first.readAt).1 = none →
      (ask first.sql first.params s).1 = .ok rows →
      let told := first.run ask store s
      told.1 = .ok rows ∧ second.run ask told.2.1 told.2.2 = (.ok rows, told.2.1, told.2.2)) := by
  obtain ⟨statement, mem, changes⟩ := changing
  have classified := kindOf_of_parse parsed (List.ne_nil_of_mem mem)
  have reads : kindOf sql = .ok .read ↔ Sql.startsControl sql = false ∧
      ∀ statement ∈ statements, statement.isQuery = true := by
    rw [classified, Except.ok.injEq]
    cases Sql.startsControl sql with
    | true => simp
    | false =>
      rw [if_neg Bool.false_ne_true, Sql.ofScript_kinds_eq_read_iff]
      simp
  refine ⟨reads, ?_, ?_, ?_, ?_⟩
  · intro read
    have isQuery := (reads.mp read).2 statement mem
    cases statement with
    | query query => exact ⟨query, mem, changes⟩
    | _ => cases isQuery
  · rintro ⟨deletion, mem, deletes⟩ read
    have isQuery := (reads.mp read).2 deletion mem
    rw [Sql.Statement.isQuery_of_deletes deletes] at isQuery
    cases isQuery
  · intro ne calls same
    refine runAll_of_ne_read (fun call mem => ?_) ask store s
    rw [same call mem]
    exact ⟨_, classified, fun read => ne (read ▸ classified)⟩
  · rintro read first second rows rfl same follows miss answer
    exact follows.run_eq read (same ▸ read) ask store s miss answer

theorem changing_calls_deletion :
    let sql := "SELECT 1; DELETE FROM users"
    let ask : Source Unit := fun _ _ s => (.ok [], s)
    let call : KeyedQuery := ⟨⟨sql, [], ⟨10⟩, ⟨0⟩, ⟨1⟩, false, false⟩, some "users"⟩
    Sql.changes sql = true ∧ kindOf sql = .ok .write ∧
      runAll ask.counted [call, call] .empty ((), 0) = ([.ok [], .ok []], .empty, ((), 2)) := by
  intro sql ask call
  have changes : Sql.changes sql = true := by decide +kernel
  have kind : kindOf sql = .ok .write := by decide +kernel
  obtain ⟨statements, parsed, changing⟩ := Sql.changes_iff.mp changes
  obtain ⟨_, _, _, runs, _⟩ := changing_calls parsed changing ask.counted .empty ((), 0)
  refine ⟨changes, kind, runs (by rw [kind]; nofun) [call, call] ?_⟩
  intro call' mem
  rcases List.mem_pair.mp mem with rfl | rfl <;> rfl

/-- An insertion behind a `WITH` clause is one query. The second of two calls with it is told that all
went well, but nothing is inserted. -/
theorem insertion_read :
    let sql := "WITH t AS (SELECT 1) INSERT INTO users (id) VALUES (1)"
    let ask : Source Unit := fun _ _ s => (.ok [], s)
    let call : KeyedQuery := ⟨⟨sql, [], ⟨10⟩, ⟨0⟩, ⟨1⟩, false, false⟩, none⟩
    let later : KeyedQuery := { call with readAt := ⟨5⟩ }
    Sql.changes sql = true ∧ kindOf sql = .ok .read ∧
      (runAll ask.counted [call, later] .empty ((), 0)).1.map Except.isOk = [true, true] ∧
      (runAll ask.counted [call, later] .empty ((), 0)).2.2.2 = 1 := by
  intro sql ask call later
  exact ⟨by decide +kernel, by decide +kernel, by decide +kernel, by decide +kernel⟩

end KeyedQuery

end NestedTx
