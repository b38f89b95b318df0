import NestedTx.Proofs.Database.Action

namespace NestedTx

open Server (Change)

def Transaction.Call.handles {ε : Type} : Transaction.Call → Except ε Unit → Nat
  | .begin, .ok _ => 1
  | _, _ => 0

inductive Entry.Use (entry : Entry) : Entry → Prop
  | called (held : 0 < entry.handles) (call : Transaction.Call) (backend : Backend) :
    Use entry ⟨(call.perform entry.transaction backend).2.1,
      entry.handles + call.handles (call.perform entry.transaction backend).1⟩
  | retained (held : 0 < entry.handles) : Use entry ⟨entry.transaction, entry.handles + 1⟩
  | dropped {handles : Nat} (more : entry.handles = handles + 1) :
    Use entry ⟨entry.transaction, handles⟩
  | abandoned (backend : Backend) : Use entry ⟨(entry.transaction.abandon backend).1, 0⟩
  | expired : Use entry ⟨entry.transaction.expire, entry.handles⟩

namespace Database

structure Tidy (db : Database) : Prop where
  clean : db.backend.Clean
  free : ∀ ref connection, db.connection? ref = some connection → connection.link.pending = none

inductive Roots (entries : List Entry) : List Entry → Prop
  | same : Roots entries entries
  | used {ref : Nat} {entry entry' : Entry} (known : entries[ref]? = some entry)
    (use : entry.Use entry') : Roots entries (entries.set ref entry')
  | begun (id : String) (carrier : ServerTransaction) (settings : TransactionSettings) :
    Roots entries (entries ++ [⟨.root id carrier settings, 1⟩])

structure Apart (texts : List String) (db db' : Database) : Prop where
  tidy : db'.Tidy
  roots : Roots db.entries db'.entries
  journal : db'.backend.server.journal = db.backend.server.journal ++ texts
  standing : ∀ holder, db'.standing holder = db.standing holder

structure Born (holder : Holder) (db db' : Database) : Prop where
  tidy : db'.Tidy
  roots : Roots db.entries db'.entries
  journal : db'.backend.server.journal = db.backend.server.journal
  others : ∀ other, other ≠ holder → db'.standing other = db.standing other
  fresh : db.standing holder = none
  empty : ∃ standing, db'.standing holder = some standing ∧
    (∀ tx, standing.carrier = some tx → tx.Holds []) ∧
      ∀ flags, standing.flags = some flags → flags = (false, false)

structure TakenUp (ref root : Nat) (db db' : Database) : Prop where
  tidy : db'.Tidy
  roots : Roots db.entries db'.entries
  journal : db'.backend.server.journal = db.backend.server.journal
  others : ∀ other, other ≠ .handOpened ref → other ≠ .root root →
    db'.standing other = db.standing other
  fresh : db.standing (.root root) = none
  passed : ∃ old, db.standing (.handOpened ref) = some old ∧
    db'.standing (.root root) = some ⟨old.carrier, some (false, false)⟩
  emptied : db'.standing (.handOpened ref) = some ⟨none, none⟩

def Standing.Follows (before : Standing) (mark : Option Mark) (after : Standing) : Prop :=
  ∀ committed' rolledBack', after.flags = some (committed', rolledBack') →
    ∃ committed rolledBack, before.flags = some (committed, rolledBack) ∧
      (committed' = true ↔ committed = true ∨ mark = some .committed) ∧
      (rolledBack' = true → rolledBack = true ∨ mark = some .undone)

structure Moved (texts : List String) (holder : Holder) (mark : Option Mark) (db db' : Database)
    (old new : Standing) : Prop where
  tidy : db'.Tidy
  roots : Roots db.entries db'.entries
  others : ∀ other, other ≠ holder → db'.standing other = db.standing other
  standing_old : db.standing holder = some old
  standing_new : db'.standing holder = some new
  served : Served texts old.carrier db.backend mark new.carrier db'.backend
  follows : old.Follows mark new

variable {db db' : Database} {texts : List String}

theorem standing_eq (entries : db'.entries = db.entries)
    (serverTransactions : db'.serverTransactions = db.serverTransactions) (holder : Holder) :
    db'.standing holder = db.standing holder := by
  cases holder <;> simp only [standing, entries, serverTransactions]

theorem standing_of_known {ref : Nat} {entry : Entry} (known : db.entries[ref]? = some entry) :
    db.standing (.root ref) = some entry.transaction.standing := by
  simp [standing, known]

theorem held_of_known {ref : Nat} {entry : Entry} (known : db.entries[ref]? = some entry) :
    db.held (.root ref) = entry.transaction.carrier := by
  rw [held, standing_of_known known]
  rfl

theorem standing_root {ref handles : Nat} {entry : Entry} {tx : Transaction}
    (known : db.entries[ref]? = some entry) (entries : db'.entries = db.entries.set ref ⟨tx, handles⟩) :
    db'.standing (.root ref) = some tx.standing := by
  obtain ⟨hlt, _⟩ := List.getElem?_eq_some_iff.mp known
  simp [standing, entries, hlt]

theorem standing_other_of_entry {ref : Nat} {entry' : Entry}
    (entries : db'.entries = db.entries.set ref entry')
    (serverTransactions : db'.serverTransactions = db.serverTransactions) {other : Holder}
    (ne : other ≠ .root ref) : db'.standing other = db.standing other := by
  cases other with
  | root other =>
    have hne : ref ≠ other := fun he => ne (he ▸ rfl)
    simp [standing, entries, hne]
  | handOpened other => simp only [standing, serverTransactions]

theorem standing_other_of_set {ref : Nat} {carrier : Option ServerTransaction}
    (entries : db'.entries = db.entries)
    (serverTransactions : db'.serverTransactions = db.serverTransactions.set ref carrier)
    {other : Holder} (ne : other ≠ .handOpened ref) : db'.standing other = db.standing other := by
  cases other with
  | root other => simp only [standing, entries]
  | handOpened other =>
    have hne : ref ≠ other := fun he => ne (he ▸ rfl)
    simp [standing, serverTransactions, hne]

theorem Apart.refl (tidy : db.Tidy) : Apart [] db db := ⟨tidy, .same, by simp, fun _ => rfl⟩

namespace Tidy

theorem backend (tidy : db.Tidy) {backend : Backend} (clean : backend.Clean) {commits rollbacks : Nat}
    (change : Change texts commits rollbacks db.backend.server backend.server) :
    Apart texts db { db with backend } where
  tidy := ⟨clean, tidy.free⟩
  roots := .same
  journal := change.journal
  standing := standing_eq rfl rfl

theorem adoptConnection (tidy : db.Tidy) {connection : Connection}
    (free : connection.link.pending = none) : (db.adoptConnection connection).2.Tidy := by
  refine ⟨tidy.clean, fun ref other he => ?_⟩
  simp only [connection?, Database.adoptConnection, List.getElem?_append] at he
  split at he
  · exact tidy.free ref other he
  · rw [List.getElem?_singleton] at he
    split at he <;> cases he
    exact free

theorem setConnection (tidy : db.Tidy) (ref : Nat) {connection : Option Connection}
    (free : ∀ c, connection = some c → c.link.pending = none) :
    ({ db with connections := db.connections.set ref connection } : Database).Tidy := by
  refine ⟨tidy.clean, fun other c he => ?_⟩
  simp only [connection?, List.getElem?_set] at he
  split at he
  · split at he <;> simp at he
    exact free c he
  · exact tidy.free other c he

theorem lend (tidy : db.Tidy) {connection : Connection} {backend backend' : Backend}
    (lent : db.backend.checkout = (.ok connection, backend)) (pool : backend'.pool = backend.pool)
    {commits rollbacks : Nat} (change : Change texts commits rollbacks backend.server backend'.server) :
    Apart texts db { db with backend := backend'.release connection } := by
  obtain ⟨hclean, hlent, _⟩ := tidy.clean.checkout
  rw [lent] at hclean hlent
  have hclean' : backend'.Clean := fun idle hm => hclean idle (pool ▸ hm)
  obtain ⟨rollbacks', hback⟩ := Backend.release_change connection backend'
  have total := (hlent.trans change).trans hback
  rw [List.nil_append, List.append_nil] at total
  exact tidy.backend (hclean'.release connection) total

theorem checkout_failed (tidy : db.Tidy) {error : DriverError} {backend : Backend}
    (failed : db.backend.checkout = (.error error, backend)) : Apart [] db { db with backend } := by
  obtain ⟨hclean, hchange, _⟩ := tidy.clean.checkout
  rw [failed] at hclean hchange
  exact tidy.backend hclean hchange

end Tidy

theorem fetch_apart (tidy : db.Tidy) (sql : String) (params : List Json.Value) :
    Apart [] db (db.fetch .database sql params).2 := by
  simp only [fetch]
  rcases hc : db.backend.checkout with ⟨_ | connection, backend⟩
  · exact tidy.checkout_failed hc
  · obtain ⟨pool, change⟩ := connection.fetch_change sql backend
    exact tidy.lend hc pool change

theorem execute_apart (tidy : db.Tidy) (sql : String) (params : List Json.Value) :
    ∃ result db', db.execute .database sql params = (result, db') ∧
      Apart (if result.toBool then [sql] else []) db db' := by
  simp only [execute]
  rcases hc : db.backend.checkout with ⟨_ | connection, backend⟩
  · exact ⟨_, _, rfl, tidy.checkout_failed hc⟩
  · obtain ⟨_, _, hfree⟩ := tidy.clean.checkout
    obtain ⟨result, server', he, change⟩ :=
      Connection.execute_cases (hfree connection (by rw [hc])) sql backend
    have hpool : ({ backend with server := server' } : Backend).pool = backend.pool := rfl
    refine ⟨result.mapError .driver, _, by simp only [he]; rfl, ?_⟩
    have hresult : (result.mapError QueryError.driver).toBool = result.toBool := by cases result <;> rfl
    rw [hresult]
    exact tidy.lend hc hpool change

theorem ping_apart (tidy : db.Tidy) (target : PingTarget) : Apart [] db (db.ping target).2 := by
  cases target with
  | pool =>
    simp only [ping, pingPool]
    rcases hc : db.backend.checkout with ⟨_ | connection, backend⟩
    · exact tidy.checkout_failed hc
    · obtain ⟨pool, change⟩ := connection.ping_change backend
      exact tidy.lend hc pool change
  | connection ref =>
    simp only [ping, pingConnection]
    cases db.connection? ref with
    | none => exact .refl tidy
    | some connection =>
      obtain ⟨pool, change⟩ := connection.ping_change db.backend
      exact tidy.backend (fun idle hm => tidy.clean idle (pool ▸ hm)) change

theorem borrow_apart (tidy : db.Tidy) : Apart [] db db.borrow.2 := by
  simp only [borrow]
  rcases hc : db.backend.checkout with ⟨_ | connection, backend⟩
  · exact tidy.checkout_failed hc
  · obtain ⟨hclean, hchange, hfree⟩ := tidy.clean.checkout
    rw [hc] at hclean hchange
    have lent := tidy.backend hclean hchange
    exact ⟨lent.tidy.adoptConnection (hfree connection (by rw [hc])), .same, lent.journal,
      standing_eq rfl rfl⟩

theorem attach_apart (tidy : db.Tidy) : Apart [] db db.attach.2 := by
  have change := db.backend.server.connect_change
  simp only [attach]
  rcases hs : db.backend.server.connect with ⟨_ | link, server'⟩
  · rw [hs] at change
    exact tidy.backend tidy.clean change
  · rw [hs] at change
    have hclean : ({ db.backend with server := server' } : Backend).Clean := tidy.clean
    have opened := tidy.backend hclean change
    have hfree : (Connection.standalone link).link.pending = none :=
      Server.pending_of_connect (by rw [hs]; rfl)
    exact ⟨opened.tidy.adoptConnection hfree, .same, opened.journal, standing_eq rfl rfl⟩

theorem forgetConnection_tidy (tidy : db.Tidy) (ref : Nat) : (db.forgetConnection ref).Tidy :=
  tidy.setConnection ref nofun

theorem giveBack_apart (tidy : db.Tidy) (ref : Nat) : Apart [] db (db.giveBack ref) := by
  simp only [giveBack]
  cases db.connection? ref with
  | none => exact .refl tidy
  | some connection =>
    obtain ⟨rollbacks, change⟩ := Backend.release_change connection db.backend
    exact ⟨⟨tidy.clean.release connection, (forgetConnection_tidy tidy ref).free⟩, .same,
      change.journal, standing_eq rfl rfl⟩

theorem executeOn_apart (tidy : db.Tidy) (ref : Nat) (sql : String) :
    ∃ result db', db.executeOn ref sql = (result, db') ∧
      Apart (if result.toBool then [sql] else []) db db' := by
  simp only [executeOn]
  cases hr : db.connection? ref with
  | none => exact ⟨_, _, rfl, .refl tidy⟩
  | some connection =>
    have hfree := tidy.free ref connection hr
    obtain ⟨result, server', he, change⟩ := Connection.execute_cases hfree sql db.backend
    refine ⟨result, _, by simp only [he]; rfl, ?_⟩
    have hset : ∀ c, some connection = some c → c.link.pending = none := by
      rintro c ⟨⟩
      exact hfree
    exact ⟨⟨tidy.clean, (tidy.setConnection ref hset).free⟩, .same, change.journal, standing_eq rfl rfl⟩

theorem fetchOn_apart (tidy : db.Tidy) (ref : Nat) (sql : String) :
    Apart [] db (db.fetchOn ref sql).2 := by
  simp only [fetchOn]
  cases db.connection? ref with
  | none => exact .refl tidy
  | some connection =>
    obtain ⟨pool, change⟩ := connection.fetch_change sql db.backend
    exact tidy.backend (fun idle hm => tidy.clean idle (pool ▸ hm)) change

theorem serverFetch_apart (tidy : db.Tidy) (ref : Nat) (sql : String) :
    Apart [] db (db.serverFetch ref sql).2 := by
  simp only [serverFetch]
  cases db.serverTransaction? ref with
  | none => exact .refl tidy
  | some tx =>
    obtain ⟨pool, change⟩ := tx.fetch_change sql db.backend
    exact tidy.backend (fun idle hm => tidy.clean idle (pool ▸ hm)) change

theorem setFaults_apart (tidy : db.Tidy) (faults : Faults) : Apart [] db (db.setFaults faults) :=
  ⟨⟨tidy.clean, tidy.free⟩, .same, by simp [setFaults], standing_eq rfl rfl⟩

theorem answer_apart (tidy : db.Tidy) (sql : String) (rows : List Row) :
    Apart [] db (db.answer sql rows) :=
  ⟨⟨tidy.clean, tidy.free⟩, .same, by simp [answer, Server.answer], standing_eq rfl rfl⟩

theorem standing_of_le {ref : Nat} (new : db.entries.length ≤ ref) :
    db.standing (.root ref) = none := by
  simp [standing, new]

theorem standing_other_of_adopt {tx : Transaction}
    (entries : db'.entries = db.entries ++ [⟨tx, 1⟩])
    (serverTransactions : db'.serverTransactions = db.serverTransactions) {other : Holder}
    (ne : other ≠ .root db.entries.length) : db'.standing other = db.standing other := by
  cases other with
  | root other =>
    have hne : other ≠ db.entries.length := fun he => ne (he ▸ rfl)
    simp only [standing, entries, List.getElem?_append]
    split
    · rfl
    · have hlt : db.entries.length < other := by omega
      rw [List.getElem?_eq_none (by simp; omega), List.getElem?_eq_none (by omega)]
  | handOpened other => simp only [standing, serverTransactions]

theorem standing_of_adopt {tx : Transaction} (entries : db'.entries = db.entries ++ [⟨tx, 1⟩]) :
    db'.standing (.root db.entries.length) = some tx.standing := by
  simp [standing, entries]

theorem begin_cases (tidy : db.Tidy) :
    (∃ error db', db.begin = (.error error, db') ∧ Apart [] db db') ∨
    ∃ id carrier db', db.begin = (.ok db.entries.length, db') ∧ carrier.done = false ∧
      db'.entries = db.entries ++ [⟨.root id carrier db.settings.forTransactions, 1⟩] ∧
      Born (.root db.entries.length) db db' := by
  have hrefuse {db' : Database} (cause : DriverError) (apart : Apart [] db db') :
      ∃ error db'', db'.refuseBegin cause = (.error error, db'') ∧ Apart [] db db'' := by
    refine ⟨_, _, rfl, ?_⟩
    split
    · refine ⟨⟨apart.tidy.clean, apart.tidy.free⟩, apart.roots, apart.journal, fun holder => ?_⟩
      rw [← apart.standing holder]
      exact standing_eq (by rfl) (by rfl) holder
    · exact apart
  simp only [Database.begin]
  obtain ⟨hclean, hlent, hfree⟩ := tidy.clean.checkout
  rcases hc : db.backend.checkout with ⟨error | connection, backend⟩
  · exact .inl (hrefuse error (tidy.checkout_failed hc))
  · rw [hc] at hclean hlent
    have free := hfree connection (by rw [hc])
    rcases ServerTransaction.begin_cases free backend with
      ⟨error, server', he, change⟩ | ⟨server', he, change⟩
    · simp only [he]
      have hclean' : ({ backend with server := server' } : Backend).Clean := hclean
      have total : Change [] 0 0 db.backend.server
          (Backend.giveBack connection { backend with server := server' }).server := by
        rw [Backend.giveBack_server]
        exact hlent.trans change
      exact .inl (hrefuse error (tidy.backend (hclean'.giveBack free) total))
    · simp only [he]
      refine .inr ⟨_, _, _, rfl, rfl, rfl,
        ⟨⟨hclean, tidy.free⟩, ?_, ?_, ?_, standing_of_le (Nat.le_refl _), ?_⟩⟩
      · exact .begun _ _ _
      · show server'.journal = db.backend.server.journal
        rw [change.journal, hlent.journal, List.append_nil, List.append_nil]
      · intro other ne
        exact standing_other_of_adopt (by rfl) (by rfl) ne
      · refine ⟨_, standing_of_adopt (by rfl), ?_, ?_⟩
        · rintro tx ⟨⟩
          rfl
        · rintro flags ⟨⟩
          rfl

theorem beginOn_cases (tidy : db.Tidy) (ref : Nat) :
    (∃ error db', db.beginOn ref = (.error error, db') ∧ Apart [] db db') ∨
    ∃ db', db.beginOn ref = (.ok db.serverTransactions.length, db') ∧
      Born (.handOpened db.serverTransactions.length) db db' := by
  simp only [beginOn]
  cases hr : db.connection? ref with
  | none => exact .inl ⟨_, _, rfl, .refl tidy⟩
  | some connection =>
    have hfree := (forgetConnection_tidy tidy ref).free
    have free := tidy.free ref connection hr
    rcases ServerTransaction.begin_cases free db.backend with
      ⟨error, server', he, change⟩ | ⟨server', he, change⟩
    · simp only [he]
      have hclean' : ({ db.backend with server := server' } : Backend).Clean := tidy.clean
      refine .inl ⟨_, _, rfl, ⟨hclean'.giveBack free, hfree⟩, .same, ?_, standing_eq rfl rfl⟩
      rw [Backend.giveBack_server]
      exact change.journal
    · simp only [he]
      refine .inr ⟨_, rfl, ⟨⟨tidy.clean, hfree⟩, .same, ?_, ?_, ?_, ?_⟩⟩
      · show server'.journal = db.backend.server.journal
        rw [change.journal, List.append_nil]
      · intro other ne
        cases other with
        | root other => rfl
        | handOpened other =>
          have hne : other ≠ db.serverTransactions.length := fun he => ne (he ▸ rfl)
          simp only [standing, List.getElem?_append]
          split
          · rfl
          · rw [List.getElem?_eq_none (by simp; omega), List.getElem?_eq_none (by omega)]
      · simp [standing]
      · refine ⟨⟨some ⟨{ connection with link := ⟨some []⟩ }, false⟩, none⟩, by simp [standing],
          ?_, nofun⟩
        rintro tx ⟨⟩
        rfl

theorem standing_handOpened {ref : Nat} {tx : ServerTransaction}
    (kept : db.serverTransaction? ref = some tx) :
    db.standing (.handOpened ref) = some ⟨some tx, none⟩ := by
  simp only [serverTransaction?, Option.join_eq_some_iff] at kept
  simp [standing, kept]

theorem standing_handOpened_of_set {ref : Nat} {tx : ServerTransaction}
    (kept : db.serverTransaction? ref = some tx) {carrier : Option ServerTransaction}
    (serverTransactions : db'.serverTransactions = db.serverTransactions.set ref carrier) :
    db'.standing (.handOpened ref) = some ⟨carrier, none⟩ := by
  simp only [serverTransaction?, Option.join_eq_some_iff] at kept
  obtain ⟨hlt, _⟩ := List.getElem?_eq_some_iff.mp kept
  simp [standing, serverTransactions, hlt]

theorem takeUp_cases (tidy : db.Tidy) (ref : Nat) (id : String) (settings : TransactionSettings) :
    db.takeUp ref id settings = (none, db) ∨
    ∃ db', db.takeUp ref id settings = (some db.entries.length, db') ∧
      TakenUp ref db.entries.length db db' := by
  simp only [takeUp]
  cases hk : db.serverTransaction? ref with
  | none => exact .inl rfl
  | some tx =>
    refine .inr ⟨_, rfl, ⟨⟨tidy.clean, tidy.free⟩, ?_, rfl, ?_, standing_of_le (Nat.le_refl _), ?_, ?_⟩⟩
    · exact .begun _ _ _
    · intro other neHand neRoot
      have hforgot : (db.forgetServerTransaction ref).standing other = db.standing other :=
        standing_other_of_set (by rfl) (by rfl) neHand
      rw [← hforgot]
      exact standing_other_of_adopt (by rfl) (by rfl) neRoot
    · refine ⟨_, standing_handOpened hk, ?_⟩
      show _ = some (Transaction.root id tx settings).standing
      exact @standing_of_adopt (db.forgetServerTransaction ref) _ _ rfl
    · exact standing_handOpened_of_set hk rfl

end Database

end NestedTx
