import NestedTx.Proofs.Database.Journal
import NestedTx.Proofs.Lending

namespace NestedTx

open Backend (Flow)

section Lists

variable {α β : Type} (f : α → Option β)

theorem filterMap_cons_eq (a : α) (l : List α) :
    (a :: l).filterMap f = (f a).toList ++ l.filterMap f := by
  cases h : f a <;> simp [h]

theorem filterMap_set_perm {l : List α} {i : Nat} {x : α} (known : l[i]? = some x) :
    ∃ rest, (l.filterMap f).Perm ((f x).toList ++ rest) ∧
      ∀ y, ((l.set i y).filterMap f).Perm ((f y).toList ++ rest) := by
  induction l generalizing i with
  | nil => simp at known
  | cons a l ih =>
    cases i with
    | zero =>
      cases known
      refine ⟨l.filterMap f, ?_, fun y => ?_⟩
      · rw [filterMap_cons_eq]
      · rw [List.set_cons_zero, filterMap_cons_eq]
    | succ i =>
      obtain ⟨rest, before, after⟩ := ih known
      refine ⟨(f a).toList ++ rest, ?_, fun y => ?_⟩
      · rw [filterMap_cons_eq]
        exact (before.append_left _).trans (List.perm_append_comm_assoc _ _ _)
      · rw [List.set_cons_succ, filterMap_cons_eq]
        exact ((after y).append_left _).trans (List.perm_append_comm_assoc _ _ _)

theorem filterMap_append_one (l : List α) (x : α) :
    ((l ++ [x]).filterMap f).Perm ((f x).toList ++ l.filterMap f) := by
  rw [List.filterMap_append, filterMap_cons_eq, List.filterMap_nil, List.append_nil]
  exact List.perm_append_comm

end Lists

namespace Database

def lent (db : Database) : List Nat :=
  db.connections.filterMap (·.bind Connection.number?) ++
    (db.serverTransactions.filterMap (·.bind ServerTransaction.number?) ++
      db.entries.filterMap (·.transaction.number?))

/-- One who holds a connection holds another one, or begins to hold one, or no longer holds any. -/
def Exchange (old new : Option Nat) (db db' : Database) : Prop :=
  ∃ rest, db.lent.Perm (old.toList ++ rest) ∧ db'.lent.Perm (new.toList ++ rest)

variable {db db' db'' : Database} {old new : Option Nat} {ref : Nat} {gone : List Nat}

namespace Exchange

theorem flow (h : Exchange old new db db') {backend backend' : Backend}
    (flow : ∀ lent, Flow (old.toList ++ lent) (new.toList ++ lent) gone backend backend') :
    Flow db.lent db'.lent gone backend backend' := by
  obtain ⟨rest, before, after⟩ := h
  exact (flow rest).perm before after

theorem trans (h : Exchange old none db db') (h' : Exchange none new db' db'') :
    Exchange old new db db'' := by
  obtain ⟨rest, before, between⟩ := h
  obtain ⟨rest', between', after⟩ := h'
  exact ⟨rest, before, after.trans ((between'.symm.trans between).append_left _)⟩

theorem loss (h : Exchange old new db db') {backend backend' : Backend}
    (loss : ∀ lent, ∃ gone, gone ⊆ old.toList ∧
      Flow (old.toList ++ lent) (new.toList ++ lent) gone backend backend') :
    ∃ gone, gone ⊆ db.lent ∧ Flow db.lent db'.lent gone backend backend' := by
  obtain ⟨rest, before, after⟩ := h
  obtain ⟨gone, held, flow⟩ := loss rest
  refine ⟨gone, ?_, flow.perm before after⟩
  exact fun _ mem => before.mem_iff.mpr (List.mem_append_left _ (held mem))

theorem middle {number : Option Nat} {l rest : List Nat} (same : l.Perm (number.toList ++ rest))
    (first last : List Nat) :
    (first ++ (l ++ last)).Perm (number.toList ++ (first ++ (rest ++ last))) := by
  apply List.perm_iff_count.mpr
  intro id
  have count := same.count_eq id
  simp only [List.count_append] at count ⊢
  omega

theorem last {number : Option Nat} {l rest : List Nat} (same : l.Perm (number.toList ++ rest))
    (first second : List Nat) :
    (first ++ (second ++ l)).Perm (number.toList ++ (first ++ second ++ rest)) := by
  have moved := middle same (first ++ second) []
  rwa [List.append_nil, List.append_nil, List.append_assoc first second l] at moved

theorem of_connection {connection : Connection} (kept : db.connection? ref = some connection)
    (connection' : Option Connection)
    (connections : db'.connections = db.connections.set ref connection')
    (serverTransactions : db'.serverTransactions = db.serverTransactions)
    (entries : db'.entries = db.entries) :
    Exchange connection.number? (connection'.bind Connection.number?) db db' := by
  rw [connection?, Option.join_eq_some_iff] at kept
  obtain ⟨rest, before, after⟩ := filterMap_set_perm (Option.bind · Connection.number?) kept
  refine ⟨_, middle before [] _, ?_⟩
  rw [lent, entries, serverTransactions, connections]
  exact middle (after connection') [] _

theorem of_serverTransaction {tx : ServerTransaction} (kept : db.serverTransaction? ref = some tx)
    (tx' : Option ServerTransaction) (connections : db'.connections = db.connections)
    (serverTransactions : db'.serverTransactions = db.serverTransactions.set ref tx')
    (entries : db'.entries = db.entries) :
    Exchange tx.number? (tx'.bind ServerTransaction.number?) db db' := by
  rw [serverTransaction?, Option.join_eq_some_iff] at kept
  obtain ⟨rest, before, after⟩ := filterMap_set_perm (Option.bind · ServerTransaction.number?) kept
  refine ⟨_, middle before _ _, ?_⟩
  rw [lent, entries, serverTransactions, connections]
  exact middle (after tx') _ _

theorem of_entry {entry : Entry} (known : db.entries[ref]? = some entry) (entry' : Entry)
    (connections : db'.connections = db.connections)
    (serverTransactions : db'.serverTransactions = db.serverTransactions)
    (entries : db'.entries = db.entries.set ref entry') :
    Exchange entry.transaction.number? entry'.transaction.number? db db' := by
  obtain ⟨rest, before, after⟩ := filterMap_set_perm (·.transaction.number?) known
  refine ⟨_, last before _ _, ?_⟩
  rw [lent, entries, serverTransactions, connections]
  exact last (after entry') _ _

theorem of_new_connection (connection : Connection)
    (connections : db'.connections = db.connections ++ [some connection])
    (serverTransactions : db'.serverTransactions = db.serverTransactions)
    (entries : db'.entries = db.entries) : Exchange none connection.number? db db' := by
  refine ⟨db.lent, .refl _, ?_⟩
  rw [lent, connections, serverTransactions, entries]
  exact middle (filterMap_append_one _ _ (some connection)) [] _

theorem of_new_serverTransaction (tx : ServerTransaction)
    (connections : db'.connections = db.connections)
    (serverTransactions : db'.serverTransactions = db.serverTransactions ++ [some tx])
    (entries : db'.entries = db.entries) : Exchange none tx.number? db db' := by
  refine ⟨db.lent, .refl _, ?_⟩
  rw [lent, connections, serverTransactions, entries]
  exact middle (filterMap_append_one _ _ (some tx)) _ _

theorem of_new_entry (entry : Entry) (connections : db'.connections = db.connections)
    (serverTransactions : db'.serverTransactions = db.serverTransactions)
    (entries : db'.entries = db.entries ++ [entry]) :
    Exchange none entry.transaction.number? db db' := by
  refine ⟨_, .refl _, ?_⟩
  rw [lent, connections, serverTransactions, entries]
  have moved := last (filterMap_append_one (·.transaction.number?) db.entries entry)
    (db.connections.filterMap (·.bind Connection.number?))
    (db.serverTransactions.filterMap (·.bind ServerTransaction.number?))
  rwa [List.append_assoc] at moved

end Exchange

namespace Tidy

theorem begin_flow (tidy : db.Tidy) :
    Flow db.lent db.begin.2.lent [] db.backend db.begin.2.backend := by
  have refused (cause : DriverError) (backend : Backend)
      (flow : Flow db.lent db.lent [] db.backend backend) :
      Flow db.lent (({ db with backend } : Database).refuseBegin cause).2.lent [] db.backend
        (({ db with backend } : Database).refuseBegin cause).2.backend := by
    simp only [refuseBegin]
    split
    · exact flow
    · exact flow
  obtain ⟨_, _, free⟩ := tidy.clean.checkout
  simp only [Database.begin]
  rcases hc : db.backend.checkout with ⟨error | connection, backend⟩
  · exact refused error backend (Backend.checkout_failed_flow hc)
  · have free : connection.link.pending = none := free connection (by rw [hc])
    have borrowed (lent : List Nat) :
        Flow lent (connection.number?.toList ++ lent) [] db.backend backend := Backend.checkout_flow hc
    rcases hb : ServerTransaction.begin connection backend with ⟨error | carrier, backend'⟩
    · have returned := (borrowed db.lent).trans (ServerTransaction.begin_failed_flow free hb)
      simp only [hb]
      exact refused error backend' returned
    · have begun (lent : List Nat) :
          Flow lent (carrier.number?.toList ++ lent) [] db.backend backend' := by
        obtain ⟨flow, same⟩ := ServerTransaction.begin_flow hb
        rw [same]
        exact (borrowed lent).trans flow
      simp only [hb]
      exact (Exchange.of_new_entry ⟨.root _ carrier _, 1⟩ (by rfl) (by rfl) (by rfl)).flow begun

theorem use_flow (tidy : db.Tidy) {connection : Connection} {backend backend' : Backend}
    (borrowed : db.backend.checkout = (.ok connection, backend))
    (used : ∀ lent, Flow lent lent [] backend backend') :
    Flow db.lent db.lent [] db.backend (backend'.release connection) := by
  obtain ⟨_, _, free⟩ := tidy.clean.checkout
  have free : connection.link.pending = none := free connection (by rw [borrowed])
  have taken : Flow db.lent (connection.number?.toList ++ db.lent) [] db.backend backend :=
    Backend.checkout_flow borrowed
  rw [Backend.release_of_free free]
  exact (taken.trans (used _)).trans (Backend.giveBack_flow connection backend')

theorem fetch_flow (tidy : db.Tidy) (sql : String) (params : List Json.Value) :
    Flow db.lent (db.fetch .database sql params).2.lent [] db.backend
      (db.fetch .database sql params).2.backend := by
  simp only [fetch]
  rcases hc : db.backend.checkout with ⟨error | connection, backend⟩
  · exact Backend.checkout_failed_flow hc
  · exact tidy.use_flow hc fun lent => connection.fetch_flow sql backend

theorem execute_flow (tidy : db.Tidy) (sql : String) (params : List Json.Value) :
    Flow db.lent (db.execute .database sql params).2.lent [] db.backend
      (db.execute .database sql params).2.backend := by
  obtain ⟨_, _, free⟩ := tidy.clean.checkout
  simp only [execute]
  rcases hc : db.backend.checkout with ⟨error | connection, backend⟩
  · exact Backend.checkout_failed_flow hc
  · have flow (lent : List Nat) := (@Connection.execute_flow lent sql connection backend).1
    obtain ⟨result, server', he, _⟩ :=
      Connection.execute_cases (free connection (by rw [hc])) sql backend
    simp only [he] at flow ⊢
    exact tidy.use_flow hc flow

theorem ping_flow (tidy : db.Tidy) (target : PingTarget) :
    Flow db.lent (db.ping target).2.lent [] db.backend (db.ping target).2.backend := by
  cases target with
  | pool =>
    simp only [ping, pingPool]
    rcases hc : db.backend.checkout with ⟨error | connection, backend⟩
    · exact Backend.checkout_failed_flow hc
    · exact tidy.use_flow hc fun lent => connection.ping_flow backend
  | connection ref =>
    simp only [ping, pingConnection]
    cases db.connection? ref with
    | none => exact .refl _
    | some connection => exact connection.ping_flow db.backend

theorem giveBack_flow (tidy : db.Tidy) (ref : Nat) :
    Flow db.lent (db.giveBack ref).lent [] db.backend (db.giveBack ref).backend := by
  simp only [giveBack]
  cases kept : db.connection? ref with
  | none => exact .refl _
  | some connection =>
    dsimp only
    rw [Backend.release_of_free (tidy.free ref connection kept)]
    exact (Exchange.of_connection kept none (by rfl) (by rfl) (by rfl)).flow fun lent =>
      Backend.giveBack_flow connection db.backend

theorem beginOn_flow (tidy : db.Tidy) (ref : Nat) :
    Flow db.lent (db.beginOn ref).2.lent [] db.backend (db.beginOn ref).2.backend := by
  simp only [beginOn]
  cases kept : db.connection? ref with
  | none => exact .refl _
  | some connection =>
    have forgotten : Exchange connection.number? none db (db.forgetConnection ref) :=
      .of_connection kept none (by rfl) (by rfl) (by rfl)
    rcases hb : ServerTransaction.begin connection db.backend with ⟨error | tx, backend⟩
    · simp only [hb]
      exact forgotten.flow fun lent =>
        ServerTransaction.begin_failed_flow (tidy.free ref connection kept) hb
    · have begun (lent : List Nat) : Flow (connection.number?.toList ++ lent)
          (tx.number?.toList ++ lent) [] db.backend backend := by
        obtain ⟨flow, same⟩ := ServerTransaction.begin_flow hb
        rw [same]
        exact flow
      simp only [hb]
      exact (forgotten.trans (.of_new_serverTransaction tx (by rfl) (by rfl) (by rfl))).flow begun

end Tidy

theorem borrow_flow (db : Database) :
    Flow db.lent db.borrow.2.lent [] db.backend db.borrow.2.backend := by
  simp only [borrow]
  rcases hc : db.backend.checkout with ⟨error | connection, backend⟩
  · exact Backend.checkout_failed_flow hc
  · exact (Exchange.of_new_connection connection (by rfl) (by rfl) (by rfl)).flow fun lent =>
      Backend.checkout_flow hc

theorem executeOn_flow (ref : Nat) (sql : String) (db : Database) :
    Flow db.lent (db.executeOn ref sql).2.lent [] db.backend (db.executeOn ref sql).2.backend := by
  simp only [executeOn]
  cases kept : db.connection? ref with
  | none => exact .refl _
  | some connection =>
    refine (Exchange.of_connection kept (some _) (by rfl) (by rfl) (by rfl)).flow fun lent => ?_
    obtain ⟨flow, same⟩ := @Connection.execute_flow (connection.number?.toList ++ lent) sql
      connection db.backend
    rwa [Option.bind_some, same]

theorem fetchOn_flow (ref : Nat) (sql : String) (db : Database) :
    Flow db.lent (db.fetchOn ref sql).2.lent [] db.backend (db.fetchOn ref sql).2.backend := by
  simp only [fetchOn]
  cases db.connection? ref with
  | none => exact .refl _
  | some connection => exact connection.fetch_flow sql db.backend

theorem finish_flow (action : ExitAction) (ref : Nat) (db : Database) :
    Flow db.lent (db.finish action ref).2.lent [] db.backend (db.finish action ref).2.backend := by
  cases kept : db.serverTransaction? ref with
  | none =>
    have same : (db.finish action ref).2 = db := by
      cases action <;> simp only [finish, serverCommit, serverRollback, kept]
    rw [same]
    exact .refl _
  | some tx =>
    have same : (db.finish action ref).2 = db.updateServerTransaction ref
        (tx.finish action db.backend).2.1 (tx.finish action db.backend).2.2 := by
      cases action <;> simp only [finish, serverCommit, serverRollback, kept, ServerTransaction.finish]
    rw [same]
    refine (Exchange.of_serverTransaction kept (some _) (by rfl) (by rfl) (by rfl)).flow fun lent => ?_
    obtain ⟨flow, same⟩ := @ServerTransaction.finish_flow (tx.number?.toList ++ lent) action
      tx db.backend
    rwa [Option.bind_some, same]

theorem serverExecute_flow (ref : Nat) (sql : String) (db : Database) :
    Flow db.lent (db.serverExecute ref sql).2.lent [] db.backend
      (db.serverExecute ref sql).2.backend := by
  simp only [serverExecute]
  cases kept : db.serverTransaction? ref with
  | none => exact .refl _
  | some tx =>
    refine (Exchange.of_serverTransaction kept (some _) (by rfl) (by rfl) (by rfl)).flow fun lent => ?_
    obtain ⟨flow, same⟩ := @ServerTransaction.execute_flow (tx.number?.toList ++ lent) sql
      tx db.backend
    rwa [Option.bind_some, same]

theorem serverFetch_flow (ref : Nat) (sql : String) (db : Database) :
    Flow db.lent (db.serverFetch ref sql).2.lent [] db.backend
      (db.serverFetch ref sql).2.backend := by
  simp only [serverFetch]
  cases db.serverTransaction? ref with
  | none => exact .refl _
  | some tx => exact tx.fetch_flow sql db.backend

theorem takeUp_flow (ref : Nat) (id : String) (settings : TransactionSettings) (db : Database) :
    Flow db.lent (db.takeUp ref id settings).2.lent [] db.backend
      (db.takeUp ref id settings).2.backend := by
  simp only [takeUp]
  cases kept : db.serverTransaction? ref with
  | none => exact .refl _
  | some tx =>
    have forgotten : Exchange tx.number? none db (db.forgetServerTransaction ref) :=
      .of_serverTransaction kept none (by rfl) (by rfl) (by rfl)
    exact (forgotten.trans (.of_new_entry ⟨.root id tx settings, 1⟩ (by rfl) (by rfl) (by rfl))).flow
      fun lent => .refl _

theorem letGo_flow (ref : Nat) (db : Database) : ∃ gone, gone ⊆ db.lent ∧
    Flow db.lent (db.letGo ref).lent gone db.backend (db.letGo ref).backend := by
  simp only [letGo]
  cases kept : db.serverTransaction? ref with
  | none => exact ⟨[], List.nil_subset _, .refl _⟩
  | some tx =>
    exact (Exchange.of_serverTransaction kept none (by rfl) (by rfl) (by rfl)).loss fun lent =>
      Backend.release_flow tx.connection db.backend

variable {entry : Entry}

theorem perform_flow (known : db.entries[ref]? = some entry) (call : Transaction.Call)
    (params : List Json.Value) : Flow db.lent (db.perform call params ref).2.lent [] db.backend
      (db.perform call params ref).2.backend := by
  obtain ⟨alarms, did⟩ := perform_eq known call params
  rw [did]
  exact (Exchange.of_entry known ⟨_, _⟩ (by rfl) (by rfl) (by rfl)).flow fun lent =>
    (entry.transaction.perform_step db.backend call).flow

theorem drop_flow (ref : Nat) (db : Database) : ∃ gone, gone ⊆ db.lent ∧
    Flow db.lent (db.drop ref).lent gone db.backend (db.drop ref).backend := by
  have idle : Flow db.lent db.lent [] db.backend db.backend := .refl _
  unfold drop
  cases known : db.entries[ref]? with
  | none => exact ⟨[], List.nil_subset _, idle⟩
  | some entry =>
    dsimp only
    split
    · exact ⟨[], List.nil_subset _, idle⟩
    · exact (Exchange.of_entry known ⟨_, 0⟩ (by rfl) (by rfl) (by rfl)).loss fun lent =>
        entry.transaction.abandon_flow db.backend
    · rename_i handles _ _
      refine ⟨[], List.nil_subset _, ?_⟩
      exact (Exchange.of_entry known ⟨_, handles⟩ (by rfl) (by rfl) (by rfl)).flow fun lent => .refl _

theorem flow_of_same (known : db.entries[ref]? = some entry) {entry' : Entry}
    (same : entry'.transaction.number? = entry.transaction.number?)
    (connections : db'.connections = db.connections)
    (serverTransactions : db'.serverTransactions = db.serverTransactions)
    (entries : db'.entries = db.entries.set ref entry') (backend : db'.backend = db.backend) :
    Flow db.lent db'.lent [] db.backend db'.backend := by
  have exchange := Exchange.of_entry known entry' connections serverTransactions entries
  rw [same] at exchange
  rw [backend]
  exact exchange.flow fun lent => .refl _

theorem expire_flow (ref openFor : Nat) (db : Database) :
    Flow db.lent (db.expire ref openFor).lent [] db.backend (db.expire ref openFor).backend := by
  unfold expire
  cases known : db.entries[ref]? with
  | none => exact .refl _
  | some entry =>
    dsimp only
    split
    · exact .refl _
    · have same : entry.transaction.expire.number? = entry.transaction.number? := by
        unfold Transaction.expire
        split <;> rfl
      split
      · exact flow_of_same known same (by rfl) (by rfl) (modify_of_known known _) (by rfl)
      · exact flow_of_same known same (by rfl) (by rfl) (modify_of_known known _) (by rfl)

theorem retain_flow {ref : Nat} (held : db.isHeld ref = true) :
    Flow db.lent (db.retain ref).lent [] db.backend (db.retain ref).backend := by
  obtain ⟨entry, known, _⟩ := exists_of_isHeld held
  exact flow_of_same known (by rfl) (by rfl) (by rfl) (modify_of_known known _) (by rfl)

structure Lends (opened : Nat) (gone : List Nat) (db db' : Database) : Prop where
  held : gone ⊆ db.lent
  accounts : ∀ {before}, db.backend.pool.Accounts db.lent before →
    db'.backend.pool.Accounts db'.lent (gone ++ before)
  limit : db'.backend.pool.limit = db.backend.pool.limit
  nextId : db'.backend.pool.nextId = db.backend.pool.nextId + opened
  refused : gone ≠ [] → db.backend.server.RefusedRollback db'.backend.server

theorem Lends.of_flow (held : gone ⊆ db.lent)
    (flow : Flow db.lent db'.lent gone db.backend db'.backend) :
    Lends (db.backend.server.opened db'.backend.server) gone db db' :=
  ⟨held, flow.accounts, flow.limit, flow.nextId, flow.refused⟩

theorem Lends.created {opened : Nat} {before : List Nat} (lends : Lends opened gone db db')
    (accounts : db.backend.pool.Accounts db.lent before) :
    db'.backend.pool.created + gone.length = db.backend.pool.created + opened := by
  have first := accounts.opened
  have last := (lends.accounts accounts).opened
  rw [lends.nextId, List.length_append] at last
  omega

theorem attach_lends (db : Database) : Lends 0 [] db db.attach.2 := by
  simp only [attach]
  rcases db.backend.server.connect with ⟨error | link, server⟩
  · exact ⟨List.nil_subset _, fun accounts => accounts, rfl, rfl, fun some => absurd rfl some⟩
  · let opened : Database := { db with backend := { db.backend with server } }
    have exchange : Exchange none (Connection.standalone link).number? db
        (opened.adoptConnection (.standalone link)).2 :=
      .of_new_connection (.standalone link) rfl rfl rfl
    obtain ⟨rest, before, after⟩ := exchange
    exact ⟨List.nil_subset _, fun accounts => accounts.perm (after.trans before.symm), rfl, rfl,
      fun some => absurd rfl some⟩

end Database

namespace Run

open Database (Lends)

def opened (run : Run) (action : Action) : Nat :=
  match action with
  | .attach => 0
  | _ => run.db.backend.server.opened (run.step action).db.backend.server

theorem Backed.lends {run : Run} (h : run.Backed) (action : Action) :
    ∃ gone, Lends (run.opened action) gone run.db (run.step action).db := by
  have tidy := h.tidy
  have keep {db' : Database} (flow : Flow run.db.lent db'.lent [] run.db.backend db'.backend) :
      ∃ gone, Lends (run.db.backend.server.opened db'.backend.server) gone run.db db' :=
    ⟨[], .of_flow (List.nil_subset _) flow⟩
  have same : ∃ gone, Lends (run.db.backend.server.opened run.db.backend.server) gone run.db run.db :=
    keep (.refl _)
  cases action with
  | begin => exact keep tidy.begin_flow
  | call ref call params =>
    cases held : run.db.isHeld ref with
    | true =>
      obtain ⟨entry, known, _⟩ := Database.exists_of_isHeld held
      have flow := Database.perform_flow known call params
      simp only [opened, step, Action.perform, held, if_true]
      exact keep flow
    | false =>
      simp only [opened, step, Action.perform, held, Bool.false_eq_true, if_false]
      exact same
  | retain ref =>
    cases held : run.db.isHeld ref with
    | true =>
      simp only [opened, step, Action.perform, held, if_true]
      exact keep (Database.retain_flow held)
    | false =>
      simp only [opened, step, Action.perform, held, Bool.false_eq_true, if_false]
      exact same
  | drop ref =>
    obtain ⟨gone, held, flow⟩ := run.db.drop_flow ref
    exact ⟨gone, .of_flow held flow⟩
  | expire ref openFor => exact keep (run.db.expire_flow ref openFor)
  | prune => exact keep (.refl _)
  | execute sql params => exact keep (tidy.execute_flow sql params)
  | fetch sql params => exact keep (tidy.fetch_flow sql params)
  | ping target => exact keep (tidy.ping_flow target)
  | borrow => exact keep run.db.borrow_flow
  | attach => exact ⟨[], run.db.attach_lends⟩
  | giveBack ref => exact keep (tidy.giveBack_flow ref)
  | executeOn ref sql => exact keep (run.db.executeOn_flow ref sql)
  | fetchOn ref sql => exact keep (run.db.fetchOn_flow ref sql)
  | beginOn ref => exact keep (tidy.beginOn_flow ref)
  | finish action ref => exact keep (run.db.finish_flow action ref)
  | serverExecute ref sql => exact keep (run.db.serverExecute_flow ref sql)
  | serverFetch ref sql => exact keep (run.db.serverFetch_flow ref sql)
  | letGo ref =>
    obtain ⟨gone, held, flow⟩ := run.db.letGo_flow ref
    exact ⟨gone, .of_flow held flow⟩
  | takeUp ref id settings =>
    have did : (run.step (.takeUp ref id settings)).db = (run.db.takeUp ref id settings).2 := by
      simp only [step, Action.perform]
      rcases run.db.takeUp ref id settings with ⟨_ | _, db'⟩
      · rfl
      · rfl
    simp only [opened, did]
    exact keep (run.db.takeUp_flow ref id settings)
  | setFaults faults =>
    have none : run.opened (.setFaults faults) = 0 := by
      simp [opened, Server.opened, step, Action.perform, Database.setFaults]
    rw [none]
    exact ⟨[], List.nil_subset _, fun accounts => accounts, rfl, rfl, fun some => absurd rfl some⟩
  | answer sql rows =>
    have answered : Server.Change [] 0 0 run.db.backend.server
        (run.db.answer sql rows).backend.server := by
      constructor <;> simp [Database.answer, Server.answer]
    exact keep (.still rfl answered rfl)

def discarded (run : Run) (action : Action) : List Nat :=
  run.db.lent.filter fun id =>
    !((run.step action).db.backend.pool.numbers ++ (run.step action).db.lent).contains id

def discards : Run → List Action → List Nat
  | _, [] => []
  | run, action :: actions => discards (run.step action) actions ++ run.discarded action

theorem discarded_perm {run : Run} {action : Action} {opened : Nat} {before gone : List Nat}
    (accounts : run.db.backend.pool.Accounts run.db.lent before)
    (lends : Lends opened gone run.db (run.step action).db) : (run.discarded action).Perm gone := by
  have accounts' := lends.accounts accounts
  apply List.perm_iff_count.mpr
  intro id
  have places := accounts.places id
  have places' := accounts'.places id
  -- A number that was opened is live or lost, and never both; so those lost now were live before.
  have live := @List.one_le_count_iff Nat _ _ id
    ((run.step action).db.backend.pool.numbers ++ (run.step action).db.lent)
  rw [List.count_append] at places' live
  by_cases kept : id ∈ (run.step action).db.backend.pool.numbers ++ (run.step action).db.lent
  · have none : (run.discarded action).count id = 0 := by
      apply List.count_eq_zero.mpr
      intro lost
      obtain ⟨_, missing⟩ := List.mem_filter.mp lost
      rw [List.contains_iff_mem.mpr kept] at missing
      cases missing
    have some := live.mpr kept
    split at places' <;> omega
  · have all : (run.discarded action).count id = run.db.lent.count id :=
      List.count_filter (by simpa using kept)
    have none : ¬1 ≤ _ := fun some => kept (live.mp some)
    have held (some : 1 ≤ gone.count id) : 1 ≤ run.db.lent.count id :=
      List.one_le_count_iff.mpr (lends.held (List.one_le_count_iff.mp some))
    have nextId := lends.nextId
    rw [all]
    split at places <;> split at places' <;> omega

theorem Consistent.accounts_steps {run : Run} {before : List String} (h : run.Consistent before)
    {gone : List Nat} (accounts : run.db.backend.pool.Accounts run.db.lent gone)
    (actions : List Action) : (run.steps actions).db.backend.pool.Accounts (run.steps actions).db.lent
        (run.discards actions ++ gone) ∧
      (run.steps actions).db.backend.pool.limit = run.db.backend.pool.limit := by
  induction actions generalizing run gone with
  | nil => exact ⟨accounts, rfl⟩
  | cons action actions ih =>
    obtain ⟨lost, lends⟩ := h.backed.lends action
    have same := discarded_perm accounts lends
    have next := (lends.accounts accounts).perm_gone (same.append_right gone)
    obtain ⟨rest, limit⟩ := ih (h.effect (h.backed.effect action)) next
    rw [discards, List.append_assoc]
    exact ⟨rest, limit.trans lends.limit⟩

/-- Through all runs the pool's count is right and within the limit, and every connection that was
opened is idle, or held, or was thrown away once when its rollback was refused. A connection is opened
only when none is idle, and only those who ask while all are held get none. -/
theorem connections_of_steps (server : Server) (settings : Settings) (actions : List Action) :
    let first := start server settings
    let run := first.steps actions
    let pool := run.db.backend.pool
    pool.limit = settings.maxConnections ∧ pool.created ≤ pool.limit ∧
      pool.created = pool.idle.length + run.db.lent.length ∧
      (pool.numbers ++ run.db.lent).Nodup ∧
      (∀ id ∈ pool.numbers ++ run.db.lent, id < pool.nextId) ∧
      (∀ idle ∈ pool.idle, idle.2.pending = none) ∧
      (∀ id, 0 < id → id < pool.nextId →
        pool.numbers.count id + run.db.lent.count id + (first.discards actions).count id = 1) ∧
      (∀ action, let pool' := (run.step action).db.backend.pool
        pool'.nextId = pool.nextId + run.opened action ∧
          pool'.created + (run.discarded action).length = pool.created + run.opened action ∧
          (run.discarded action ≠ [] →
            run.db.backend.server.RefusedRollback (run.step action).db.backend.server)) ∧
      (pool.idle ≠ [] → run.db.backend.checkout.2.server = run.db.backend.server) ∧
      ((∃ max, run.db.backend.checkout.1 = .error (.poolExhausted max)) ↔
        pool.idle = [] ∧ run.db.lent.length = settings.maxConnections) := by
  intro first run pool
  have consistent := start_consistent server settings
  have begins : first.db.backend.pool.Accounts first.db.lent [] := .empty settings.maxConnections
  obtain ⟨accounts, limit⟩ := consistent.accounts_steps begins actions
  have limit : pool.limit = settings.maxConnections := limit
  have backed := (consistent.steps actions).backed
  rw [List.append_nil] at accounts
  refine ⟨limit, accounts.limited, accounts.created, accounts.nodup, fun id live =>
    accounts.lt_nextId live, backed.tidy.clean, fun id first below => ?_, fun action => ?_,
    Backend.checkout_of_idle, ?_⟩
  · rw [accounts.places id, if_pos ⟨first, below⟩]
  · obtain ⟨gone, lends⟩ := backed.lends action
    have same := discarded_perm accounts lends
    refine ⟨lends.nextId, ?_, fun some => ?_⟩
    · rw [same.length_eq]
      exact lends.created accounts
    · apply lends.refused
      rintro rfl
      exact some same.eq_nil
  · rw [← limit]
    exact Backend.checkout_exhausted_iff accounts

example : (start .empty .standard).discards
    [.begin, .setFaults ⟨0, false, false, false, true⟩, .drop 0, .begin] = [1] := by decide +kernel

end Run

end NestedTx
