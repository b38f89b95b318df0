import NestedTx.Proofs.Transaction.Call

/-!
Where the connections of a pool are. Each one that was opened is idle, or lent, or was thrown away
because its transaction could not be rolled back. `Flow` says how the uses of connections move them.
-/

namespace NestedTx

open Server (Change)

def Connection.number? (connection : Connection) : Option Nat :=
  if connection.pooled then some connection.id else none

def ServerTransaction.number? (tx : ServerTransaction) : Option Nat := tx.connection.number?

def Transaction.number? (tx : Transaction) : Option Nat := tx.carrier.bind ServerTransaction.number?

namespace Pool

def numbers (pool : Pool) : List Nat := pool.idle.map Prod.fst

structure Accounts (lent gone : List Nat) (pool : Pool) : Prop where
  created : pool.created = pool.idle.length + lent.length
  limited : pool.created ≤ pool.limit
  first : 0 < pool.nextId
  places : ∀ id, pool.numbers.count id + lent.count id + gone.count id =
    if 0 < id ∧ id < pool.nextId then 1 else 0

namespace Accounts

variable {pool : Pool} {lent lent' gone : List Nat}

theorem empty (limit : Nat) : (Pool.empty limit).Accounts [] [] := by
  constructor
  · rfl
  · exact Nat.zero_le limit
  · exact Nat.one_pos
  · intro id
    have none : ¬(0 < id ∧ id < 1) := by omega
    exact (if_neg none).symm

theorem perm (h : pool.Accounts lent gone) (same : lent'.Perm lent) : pool.Accounts lent' gone where
  created := by rw [h.created, same.length_eq]
  limited := h.limited
  first := h.first
  places id := by rw [same.count_eq, h.places]

section Moves

variable {id : Nat} {link : Link}

theorem lend (h : pool.Accounts lent gone) {rest : List (Nat × Link)}
    (idle : pool.idle = (id, link) :: rest) :
    ({ pool with idle := rest } : Pool).Accounts (id :: lent) gone := by
  have created := h.created
  simp only [idle, List.length_cons] at created
  constructor
  · simp only [List.length_cons]
    omega
  · exact h.limited
  · exact h.first
  · intro other
    have places := h.places other
    simp only [numbers, idle, List.map_cons, List.count_cons] at places ⊢
    omega

theorem grow (h : pool.Accounts lent gone) (room : pool.created < pool.limit) :
    ({ pool with created := pool.created + 1, nextId := pool.nextId + 1 } : Pool).Accounts
      (pool.nextId :: lent) gone := by
  have created := h.created
  have first := h.first
  constructor
  · simp only [List.length_cons]
    omega
  · exact room
  · exact Nat.succ_pos _
  · intro other
    have places := h.places other
    simp only [numbers, List.count_cons] at places ⊢
    by_cases new : pool.nextId = other
    · subst new
      rw [if_neg (fun old => Nat.lt_irrefl _ old.2)] at places
      rw [if_pos (beq_self_eq_true _), if_pos ⟨first, Nat.lt_succ_self _⟩]
      omega
    · have same : (0 < other ∧ other < pool.nextId + 1) ↔ (0 < other ∧ other < pool.nextId) := by omega
      simp only [beq_eq_false_iff_ne.mpr new, Bool.false_eq_true, if_false, same]
      omega

theorem takeBack (h : pool.Accounts (id :: lent) gone) (link : Link) :
    ({ pool with idle := pool.idle ++ [(id, link)] } : Pool).Accounts lent gone := by
  have created := h.created
  simp only [List.length_cons] at created
  constructor
  · simp only [List.length_append, List.length_singleton]
    omega
  · exact h.limited
  · exact h.first
  · intro other
    have places := h.places other
    simp only [numbers, List.count_cons, List.map_append, List.map_cons, List.map_nil,
      List.count_append, List.count_nil] at places ⊢
    omega

theorem lose (h : pool.Accounts (id :: lent) gone) :
    ({ pool with created := pool.created - 1 } : Pool).Accounts lent (id :: gone) := by
  have created := h.created
  have limited := h.limited
  simp only [List.length_cons] at created
  constructor
  · dsimp only
    omega
  · exact Nat.le_trans (Nat.sub_le _ _) limited
  · exact h.first
  · intro other
    have places := h.places other
    simp only [numbers, List.count_cons] at places ⊢
    omega

end Moves

theorem perm_gone {gone' : List Nat} (h : pool.Accounts lent gone) (same : gone'.Perm gone) :
    pool.Accounts lent gone' where
  created := h.created
  limited := h.limited
  first := h.first
  places id := by rw [same.count_eq, h.places]

theorem nodup (h : pool.Accounts lent gone) : (pool.numbers ++ lent).Nodup := by
  apply List.nodup_iff_count.mpr
  intro id
  have places := h.places id
  rw [List.count_append]
  split at places <;> omega

theorem lt_nextId (h : pool.Accounts lent gone) {id : Nat} (live : id ∈ pool.numbers ++ lent) :
    id < pool.nextId := by
  have places := h.places id
  have found := List.one_le_count_iff.mpr live
  rw [List.count_append] at found
  split at places
  · rename_i between
    exact between.2
  · omega

theorem opened (h : pool.Accounts lent gone) : pool.created + gone.length + 1 = pool.nextId := by
  have sorted : (pool.numbers ++ lent ++ gone).Perm (List.range' 1 (pool.nextId - 1)) := by
    apply List.perm_iff_count.mpr
    intro id
    have range : (List.range' 1 (pool.nextId - 1)).count id =
        if 0 < id ∧ id < pool.nextId then 1 else 0 := by
      have once := List.nodup_iff_count.mp (List.nodup_range' (s := 1) (n := pool.nextId - 1)) id
      have found := @List.one_le_count_iff Nat _ _ id (List.range' 1 (pool.nextId - 1))
      have first := h.first
      rw [List.mem_range'_1] at found
      split
      · have := found.mpr (by omega)
        omega
      · have : ¬1 ≤ (List.range' 1 (pool.nextId - 1)).count id := fun more => by
          have := found.mp more
          omega
        omega
    rw [range, List.count_append, List.count_append, h.places]
  have lengths := sorted.length_eq
  have created := h.created
  have first := h.first
  simp only [List.length_append, numbers, List.length_map, List.length_range'] at lengths
  omega

end Accounts

end Pool

namespace Server

def opened (before after : Server) : Nat :=
  if before.faults.connect then 0 else after.counters.connects - before.counters.connects

def RefusedRollback (before after : Server) : Prop :=
  before.faults.rollback = true ∧ before.counters.rollbacks < after.counters.rollbacks

theorem connect_cases (server : Server) :
    (∃ error server', server.connect = (.error error, server') ∧ server.faults.connect = true ∧
      server'.counters.connects = server.counters.connects + 1 ∧ Change [] 0 0 server server') ∨
    ∃ server', server.connect = (.ok ⟨none⟩, server') ∧ server.faults.connect = false ∧
      server'.counters.connects = server.counters.connects + 1 ∧ Change [] 0 0 server server' := by
  have change := server.connect_change
  simp only [connect] at change ⊢
  by_cases refuses : server.faults.connect = true
  · rw [if_pos refuses] at change ⊢
    exact .inl ⟨_, _, rfl, refuses, rfl, change⟩
  · rw [if_neg refuses] at change ⊢
    exact .inr ⟨_, rfl, Bool.eq_false_iff.mpr refuses, rfl, change⟩

end Server

namespace Link

variable (link : Link) (server : Server)

@[simp] theorem connects_ping :
    (link.ping server).2.counters.connects = server.counters.connects := by
  simp only [ping]
  split <;> rfl

@[simp] theorem connects_begin :
    (link.begin server).2.2.counters.connects = server.counters.connects := by
  simp only [begin]
  split
  · rfl
  · split <;> rfl

@[simp] theorem connects_commit :
    (link.commit server).2.2.counters.connects = server.counters.connects := by
  simp only [commit]
  split
  · rfl
  · split <;> rfl

@[simp] theorem connects_rollback :
    (link.rollback server).2.2.counters.connects = server.counters.connects := by
  simp only [rollback]
  split
  · rfl
  · split <;> rfl

@[simp] theorem connects_execute (sql : String) :
    (link.execute sql server).2.2.counters.connects = server.counters.connects := by
  simp only [execute]
  split
  · rfl
  · split <;> rfl

@[simp] theorem connects_fetch (sql : String) :
    (link.fetch sql server).2.counters.connects = server.counters.connects := by
  simp only [fetch]
  split <;> rfl

end Link

namespace Backend

structure Flow (lent lent' gone : List Nat) (backend backend' : Backend) : Prop where
  accounts : ∀ {before}, backend.pool.Accounts lent before →
    backend'.pool.Accounts lent' (gone ++ before)
  limit : backend'.pool.limit = backend.pool.limit
  change : ∃ texts commits rollbacks, Change texts commits rollbacks backend.server backend'.server
  connects : backend.server.counters.connects ≤ backend'.server.counters.connects
  nextId : backend'.pool.nextId = backend.pool.nextId + backend.server.opened backend'.server
  refused : gone ≠ [] → backend.server.RefusedRollback backend'.server

namespace Flow

variable {lent lent' lent'' gone gone' : List Nat} {backend backend' backend'' : Backend}

theorem still (pool : backend'.pool = backend.pool) {texts : List String} {commits rollbacks : Nat}
    (change : Change texts commits rollbacks backend.server backend'.server)
    (connects : backend'.server.counters.connects = backend.server.counters.connects) :
    Flow lent lent [] backend backend' where
  accounts accounts := pool ▸ accounts
  limit := by rw [pool]
  change := ⟨_, _, _, change⟩
  connects := Nat.le_of_eq connects.symm
  nextId := by simp [pool, Server.opened, connects]
  refused := fun some => absurd rfl some

theorem refl (backend : Backend) : Flow lent lent [] backend backend := still rfl (.refl _) rfl

theorem perm (h : Flow lent lent' gone backend backend') {lent₁ lent₁' : List Nat}
    (before : lent₁.Perm lent) (after : lent₁'.Perm lent') :
    Flow lent₁ lent₁' gone backend backend' where
  accounts accounts := (h.accounts (accounts.perm before.symm)).perm after
  limit := h.limit
  change := h.change
  connects := h.connects
  nextId := h.nextId
  refused := h.refused

theorem trans (h : Flow lent lent' gone backend backend')
    (h' : Flow lent' lent'' gone' backend' backend'') :
    Flow lent lent'' (gone' ++ gone) backend backend'' := by
  obtain ⟨_, _, _, change⟩ := h.change
  obtain ⟨_, _, _, change'⟩ := h'.change
  constructor
  · intro before accounts
    rw [List.append_assoc]
    exact h'.accounts (h.accounts accounts)
  · rw [h'.limit, h.limit]
  · exact ⟨_, _, _, change.trans change'⟩
  · exact Nat.le_trans h.connects h'.connects
  · have first := h.connects
    have second := h'.connects
    rw [h'.nextId, h.nextId]
    simp only [Server.opened, change.refusesConnect]
    split <;> omega
  · intro some
    have count := change.rollbacks
    have count' := change'.rollbacks
    by_cases later : gone' = []
    · have refused := h.refused (by simpa [later] using some)
      exact ⟨refused.1, by have := refused.2; omega⟩
    · have refused := h'.refused later
      exact ⟨change.refusesRollback ▸ refused.1, by have := refused.2; omega⟩

end Flow

variable {lent : List Nat} {backend backend' : Backend} {connection : Connection}

theorem checkout_flow (ok : backend.checkout = (.ok connection, backend')) :
    Flow lent (connection.number?.toList ++ lent) [] backend backend' := by
  simp only [checkout] at ok
  split at ok
  · rename_i id link rest idle
    cases ok
    exact ⟨fun accounts => accounts.lend idle, rfl, ⟨_, _, _, .refl _⟩, Nat.le_refl _,
      by simp [Server.opened], fun some => absurd rfl some⟩
  · split at ok
    · cases ok
    · rename_i full
      have room : backend.pool.created < backend.pool.limit := Nat.lt_of_not_le full
      rcases backend.server.connect_cases with ⟨_, _, he, _⟩ | ⟨server', he, obliged, connects, change⟩
      · simp only [he] at ok
        cases ok
      · simp only [he] at ok
        cases ok
        exact ⟨fun accounts => accounts.grow room, rfl, ⟨_, _, _, change⟩, by simp [connects],
          by simp [Server.opened, obliged, connects], fun some => absurd rfl some⟩

theorem checkout_failed_flow {error : DriverError}
    (failed : backend.checkout = (.error error, backend')) : Flow lent lent [] backend backend' := by
  simp only [checkout] at failed
  split at failed
  · cases failed
  · split at failed
    · cases failed
      exact .refl backend
    · rcases backend.server.connect_cases with ⟨_, _, he, refused, connects, change⟩ | ⟨server', he, _⟩
      · simp only [he] at failed
        cases failed
        exact ⟨id, rfl, ⟨_, _, _, change⟩, by simp [connects], by simp [Server.opened, refused],
          fun some => absurd rfl some⟩
      · simp only [he] at failed
        cases failed

theorem checkout_of_idle (idle : backend.pool.idle ≠ []) :
    backend.checkout.2.server = backend.server := by
  simp only [checkout]
  split
  · rfl
  · contradiction

theorem checkout_exhausted_iff {gone : List Nat} (accounts : backend.pool.Accounts lent gone) :
    (∃ max, backend.checkout.1 = .error (.poolExhausted max)) ↔
      backend.pool.idle = [] ∧ lent.length = backend.pool.limit := by
  have created := accounts.created
  have limited := accounts.limited
  simp only [checkout]
  split
  · rename_i idle
    simp [idle]
  · rename_i idle
    simp only [idle, List.length_nil] at created
    split
    · rename_i full
      have all : lent.length = backend.pool.limit := by omega
      simp [idle, all]
    · rename_i room
      have some : lent.length ≠ backend.pool.limit := by omega
      rcases backend.server.connect_cases with ⟨error, server', he, _⟩ | ⟨server', he, _⟩
      · have refused : error = .connection "connection refused" := by
          simp only [Server.connect] at he
          split at he
          · cases he
            rfl
          · cases he
        simp [he, refused, some]
      · simp [he, some]

theorem giveBack_flow (connection : Connection) (backend : Backend) :
    Flow (connection.number?.toList ++ lent) lent [] backend (backend.giveBack connection) := by
  unfold giveBack Connection.number?
  split
  · exact ⟨fun accounts => accounts.takeBack connection.link, rfl, ⟨_, _, _, .refl _⟩, Nat.le_refl _,
      by simp [Server.opened], fun some => absurd rfl some⟩
  · exact .refl backend

theorem discard_accounts {gone : List Nat} {connection : Connection}
    (accounts : backend.pool.Accounts (connection.number?.toList ++ lent) gone) :
    (backend.discard connection).pool.Accounts lent (connection.number?.toList ++ gone) := by
  unfold discard
  unfold Connection.number? at accounts ⊢
  cases pooled : connection.pooled with
  | false => simpa [pooled] using accounts
  | true =>
    simp only [pooled, if_true, Option.toList_some, List.singleton_append] at accounts ⊢
    exact accounts.lose

theorem discard_frame (connection : Connection) (backend : Backend) :
    (backend.discard connection).pool.limit = backend.pool.limit ∧
      (backend.discard connection).pool.nextId = backend.pool.nextId := by
  unfold discard
  split
  · exact ⟨rfl, rfl⟩
  · exact ⟨rfl, rfl⟩

theorem release_flow (connection : Connection) (backend : Backend) :
    ∃ gone, gone ⊆ connection.number?.toList ∧
      Flow (connection.number?.toList ++ lent) lent gone backend (backend.release connection) := by
  cases hp : connection.link.pending with
  | none =>
    refine ⟨[], List.nil_subset _, ?_⟩
    rw [release_of_free hp]
    exact giveBack_flow connection backend
  | some texts =>
    have hopen : connection.link.inTransaction = true := by simp [Link.inTransaction, hp]
    have connects := connection.link.connects_rollback backend.server
    rcases connection.link.rollback_cases backend.server with
      ⟨error, server', he, change, refused⟩ | ⟨_, server', _, he, change⟩
    · have refuses : backend.server.faults.rollback = true := by simpa [hp] using refused
      replace connects : server'.counters.connects = backend.server.counters.connects := by
        simpa only [he] using connects
      have more : backend.server.counters.rollbacks < server'.counters.rollbacks := by
        rw [change.rollbacks]
        exact Nat.lt_succ_self _
      obtain ⟨limit, nextId⟩ := discard_frame connection { backend with server := server' }
      refine ⟨connection.number?.toList, fun _ mem => mem, ?_⟩
      simp only [release, hopen, if_true, he]
      have server := discard_server connection { backend with server := server' }
      constructor
      · exact fun accounts => @discard_accounts lent { backend with server := server' } _ _ accounts
      · exact limit
      · rw [server]
        exact ⟨_, _, _, change⟩
      · rw [server]
        exact Nat.le_of_eq connects.symm
      · rw [server, nextId]
        simp [Server.opened, connects]
      · intro _
        rw [server]
        exact ⟨refuses, more⟩
    · replace connects : server'.counters.connects = backend.server.counters.connects := by
        simpa only [he] using connects
      refine ⟨[], List.nil_subset _, ?_⟩
      simp only [release, hopen, if_true, he]
      have rolledBack : Flow (connection.number?.toList ++ lent) (connection.number?.toList ++ lent) []
          backend { backend with server := server' } := .still rfl change connects
      exact rolledBack.trans (giveBack_flow { connection with link := ⟨none⟩ } _)

end Backend

open Backend (Flow)

variable {lent : List Nat}

namespace Connection

theorem ping_flow (connection : Connection) (backend : Backend) :
    Flow lent lent [] backend (connection.ping backend).2 :=
  .still rfl (connection.ping_change backend).2 (connection.link.connects_ping backend.server)

theorem fetch_flow (sql : String) (connection : Connection) (backend : Backend) :
    Flow lent lent [] backend (connection.fetch sql backend).2 :=
  .still rfl (connection.fetch_change sql backend).2
    (connection.link.connects_fetch backend.server sql)

theorem execute_flow (sql : String) (connection : Connection) (backend : Backend) :
    Flow lent lent [] backend (connection.execute sql backend).2.2 ∧
      (connection.execute sql backend).2.1.number? = connection.number? := by
  have connects := connection.link.connects_execute backend.server sql
  refine ⟨?_, rfl⟩
  rcases connection.link.execute_cases backend.server sql with
    ⟨_, server', he, change⟩ | ⟨_, server', _, he, change⟩ | ⟨_, _, server', _, he, change⟩
  all_goals
    simp only [execute, he]
    rw [he] at connects
    exact .still rfl change connects

end Connection

namespace ServerTransaction

theorem begin_flow {connection : Connection} {backend backend' : Backend} {tx : ServerTransaction}
    (ok : ServerTransaction.begin connection backend = (.ok tx, backend')) :
    Flow lent lent [] backend backend' ∧ tx.number? = connection.number? := by
  have connects := connection.link.connects_begin backend.server
  rcases connection.link.begin_cases backend.server with
    ⟨error, server', he, change⟩ | ⟨server', he, change⟩
  · simp only [ServerTransaction.begin, he] at ok
    cases ok
  · simp only [ServerTransaction.begin, he] at ok
    cases ok
    rw [he] at connects
    exact ⟨.still rfl change connects, rfl⟩

theorem begin_failed_flow {connection : Connection} (free : connection.link.pending = none)
    {backend backend' : Backend} {error : DriverError}
    (failed : ServerTransaction.begin connection backend = (.error error, backend')) :
    Flow (connection.number?.toList ++ lent) lent [] backend backend' := by
  have connects := connection.link.connects_begin backend.server
  rcases connection.link.begin_cases backend.server with
    ⟨error, server', he, change⟩ | ⟨server', he, change⟩
  · simp only [ServerTransaction.begin, he, Backend.release_of_free free] at failed
    cases failed
    rw [he] at connects
    have refused : Flow (connection.number?.toList ++ lent) (connection.number?.toList ++ lent) []
        backend { backend with server := server' } := .still rfl change connects
    exact refused.trans (Backend.giveBack_flow connection _)
  · simp only [ServerTransaction.begin, he] at failed
    cases failed

theorem connects_finish (action : ExitAction) (tx : ServerTransaction) (backend : Backend) :
    (tx.finish action backend).2.2.server.counters.connects = backend.server.counters.connects := by
  cases action with
  | commit =>
    have connects := tx.connection.link.connects_commit backend.server
    simp only [finish, commit]
    split
    · rfl
    · split <;> simpa only [*] using connects
  | rollback =>
    have connects := tx.connection.link.connects_rollback backend.server
    simp only [finish, rollback]
    split
    · rfl
    · split <;> simpa only [*] using connects

theorem finish_flow (action : ExitAction) (tx : ServerTransaction) (backend : Backend) :
    Flow lent lent [] backend (tx.finish action backend).2.2 ∧
      (tx.finish action backend).2.1.number? = tx.number? := by
  have connects := tx.connects_finish action backend
  rcases tx.finish_cases action backend with ⟨_, _, _, server', he, change⟩ | ⟨_, server', he, change⟩
  · rw [he] at connects ⊢
    exact ⟨.still rfl change connects, rfl⟩
  · rw [he] at connects ⊢
    exact ⟨.still rfl change connects, rfl⟩

theorem free_of_finish {action : ExitAction} {tx tx' : ServerTransaction} {backend backend' : Backend}
    (ok : tx.finish action backend = (.ok (), tx', backend')) :
    tx'.connection.link.pending = none := by
  rcases tx.finish_cases action backend with ⟨_, _, _, _, he, _⟩ | ⟨_, _, he, _⟩
  · cases he.symm.trans ok
  · cases he.symm.trans ok
    rfl

theorem execute_flow (sql : String) (tx : ServerTransaction) (backend : Backend) :
    Flow lent lent [] backend (tx.execute sql backend).2.2 ∧
      (tx.execute sql backend).2.1.number? = tx.number? := by
  simp only [execute]
  split
  · exact ⟨.refl backend, rfl⟩
  · exact tx.connection.execute_flow sql backend

theorem fetch_flow (sql : String) (tx : ServerTransaction) (backend : Backend) :
    Flow lent lent [] backend (tx.fetch sql backend).2 := by
  unfold fetch
  split
  · exact .refl backend
  · exact tx.connection.fetch_flow sql backend

end ServerTransaction

namespace Transaction

variable {tx tx' : Transaction} {backend backend' : Backend}

theorem number?_of_carrier {carrier : ServerTransaction} (some : tx.carrier = some carrier) :
    tx.number? = carrier.number? := by
  simp [number?, some]

@[simp] theorem number?_pop (tx : Transaction) : tx.pop.number? = tx.number? := by
  simp only [number?, pop_carrier]

theorem Attempt.flow {action : ExitAction} {result : Except DriverError Unit}
    (attempt : Attempt action tx backend result tx' backend') :
    Flow (tx.number?.toList ++ lent) (tx'.number?.toList ++ lent) [] backend backend' := by
  cases attempt with
  | missing none => exact .refl backend
  | @refused carrier carrier' _ _ some finish =>
    obtain ⟨flow, same⟩ :=
      @ServerTransaction.finish_flow (tx.number?.toList ++ lent) action carrier backend
    rw [finish] at flow same
    have number : tx.number? = carrier'.number? := (number?_of_carrier some).trans same.symm
    rw [number] at flow ⊢
    exact flow
  | @done carrier carrier' _ some finish =>
    obtain ⟨flow, same⟩ :=
      @ServerTransaction.finish_flow (tx.number?.toList ++ lent) action carrier backend
    rw [finish] at flow same
    have number : tx.number? = carrier'.connection.number? :=
      (number?_of_carrier some).trans same.symm
    have none : ({ tx with carrier := none, watchdog := tx.watchdog.disarm }.settle action).number? =
        none := by simp [number?]
    rw [none, Backend.release_of_free (ServerTransaction.free_of_finish finish)]
    rw [number] at flow ⊢
    exact flow.trans (Backend.giveBack_flow carrier'.connection _)

theorem Step.flow {call : Call} {answer : Except TransactionError Unit}
    (step : Step tx backend call answer tx' backend') :
    Flow (tx.number?.toList ++ lent) (tx'.number?.toList ++ lent) [] backend backend' := by
  cases step with
  | lateForAll | lateForRoot | lateForLevel | lateForCommit | entered | noted | barred | closed =>
    exact .refl backend
  | left =>
    rw [number?_pop]
    exact .refl backend
  | committing undecided root attempt => exact attempt.flow
  | rollingBack whole uncommitted attempt => exact attempt.flow
  | leaving whole uncommitted root attempt =>
    rw [number?_pop]
    exact attempt.flow
  | @executed carrier carrier' sql _ _ some free run =>
    obtain ⟨flow, same⟩ :=
      @ServerTransaction.execute_flow (tx.number?.toList ++ lent) sql carrier backend
    rw [run] at flow same
    have number : tx.number? = carrier'.number? := (number?_of_carrier some).trans same.symm
    rw [number] at flow ⊢
    exact flow
  | @fetched carrier sql _ _ some free run =>
    have flow := @ServerTransaction.fetch_flow (tx.number?.toList ++ lent) sql carrier backend
    rw [run] at flow
    exact flow

theorem abandon_flow (tx : Transaction) (backend : Backend) :
    ∃ gone, gone ⊆ tx.number?.toList ∧ Flow (tx.number?.toList ++ lent)
      ((tx.abandon backend).1.number?.toList ++ lent) gone backend (tx.abandon backend).2 := by
  unfold abandon
  cases hs : tx.carrier with
  | none =>
    refine ⟨[], List.nil_subset _, ?_⟩
    simp only [number?, hs]
    exact .refl backend
  | some carrier =>
    obtain ⟨gone, held, flow⟩ := @Backend.release_flow lent carrier.connection backend
    rw [number?_of_carrier hs]
    exact ⟨gone, held, flow⟩

end Transaction

end NestedTx
