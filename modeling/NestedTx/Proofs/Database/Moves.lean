import NestedTx.Proofs.Database.Standing

namespace NestedTx

theorem Transaction.standing_expire (tx : Transaction) : tx.expire.standing = tx.standing := by
  unfold expire
  split <;> rfl

namespace Database

variable {db db' : Database} {texts : List String} {ref : Nat} {entry : Entry}

theorem modify_of_known {entries : List Entry}
    (known : entries[ref]? = some entry) (f : Entry → Entry) :
    entries.modify ref f = entries.set ref (f entry) := by
  have : Inhabited Entry := ⟨entry⟩
  rw [List.modify_eq_set, known, Option.getD_some]

theorem set_known {entries : List Entry}
    (known : entries[ref]? = some entry) : entries.set ref entry = entries := by
  obtain ⟨hlt, rfl⟩ := List.getElem?_eq_some_iff.mp known
  exact List.set_getElem_self hlt

theorem exists_of_isHeld (held : db.isHeld ref = true) :
    ∃ entry, db.entries[ref]? = some entry ∧ 0 < entry.handles := by
  cases hk : db.entries[ref]? with
  | none => simp [isHeld, hk] at held
  | some entry => exact ⟨entry, rfl, by simpa [isHeld, hk] using held⟩

theorem transaction_of_known (known : db.entries[ref]? = some entry) :
    db.transaction ref = entry.transaction := by
  simp [transaction, known]

theorem perform_eq (known : db.entries[ref]? = some entry)
    (call : Transaction.Call) (params : List Json.Value) :
    ∃ alarms, db.perform call params ref =
      ((call.perform entry.transaction db.backend).1,
        { db with
          backend := (call.perform entry.transaction db.backend).2.2
          entries := db.entries.set ref ⟨(call.perform entry.transaction db.backend).2.1,
            entry.handles + call.handles (call.perform entry.transaction db.backend).1⟩
          alarms }) := by
  have htx := transaction_of_known known
  cases call with
  | begin =>
    simp only [perform, beginNested, htx, Transaction.Call.perform]
    cases entry.transaction.begin with
    | error error =>
      refine ⟨db.alarms, ?_⟩
      simp only [Transaction.Call.handles, Nat.add_zero, set_known known]
    | ok tx =>
      refine ⟨db.alarms, ?_⟩
      simp only [Transaction.Call.handles, retain, setTransaction, List.modify_modify_eq]
      rw [modify_of_known known]
      rfl
  | commit =>
    refine ⟨db.alarms, ?_⟩
    simp only [perform, commit, htx, Transaction.Call.perform, update, setTransaction,
      modify_of_known known, Transaction.Call.handles, Nat.add_zero]
  | rollback =>
    refine ⟨db.alarms, ?_⟩
    simp only [perform, rollback, htx, Transaction.Call.perform, update, setTransaction,
      modify_of_known known, Transaction.Call.handles, Nat.add_zero]
  | exit action =>
    simp only [perform, exit, htx, Transaction.Call.perform]
    rcases entry.transaction.exit action db.backend with ⟨failed | _, tx, backend⟩
    · simp only [update, setTransaction, modify_of_known known]
      split
      · exact ⟨_, rfl⟩
      · exact ⟨_, rfl⟩
    · simp only [update, setTransaction, modify_of_known known]
      exact ⟨_, rfl⟩
  | execute sql =>
    refine ⟨db.alarms, ?_⟩
    simp only [perform, execute, htx, Transaction.Call.perform, update, setTransaction,
      modify_of_known known, Transaction.Call.handles, Nat.add_zero]
  | fetch sql =>
    refine ⟨db.alarms, ?_⟩
    simp only [perform, fetch, htx, Transaction.Call.perform, Transaction.Call.handles, Nat.add_zero,
      set_known known]

theorem perform_moved (tidy : db.Tidy) (known : db.entries[ref]? = some entry)
    (held : 0 < entry.handles)
    (holds : ∀ carrier, entry.transaction.carrier = some carrier → carrier.Holds texts)
    (call : Transaction.Call) (params : List Json.Value) :
    ∃ new, Moved texts (.root ref)
      (call.mark? (db.perform call params ref).1 db.backend.server.counters
        (db.perform call params ref).2.backend.server.counters)
      db (db.perform call params ref).2 entry.transaction.standing new := by
  obtain ⟨alarms, he⟩ := perform_eq known call params
  obtain ⟨served, flagged⟩ := entry.transaction.perform_served tidy.clean holds call
  rw [he]
  dsimp only
  refine ⟨(call.perform entry.transaction db.backend).2.1.standing, ⟨served.clean, tidy.free⟩, ?_, ?_,
    ?_, ?_, served, ?_⟩
  · exact .used known (.called held call db.backend)
  · intro other ne
    exact standing_other_of_entry (by rfl) (by rfl) ne
  · exact standing_of_known known
  · exact standing_root known (by rfl)
  · rintro committed rolledBack ⟨⟩
    exact ⟨_, _, rfl, flagged.committed, flagged.rolledBack.mp⟩

theorem abandon_served {tx : Transaction} {backend : Backend} (clean : backend.Clean) :
    Served texts tx.carrier backend (if isLive tx.carrier then some .undone else none)
      (tx.abandon backend).1.carrier (tx.abandon backend).2 := by
  unfold Transaction.abandon
  cases hs : tx.carrier with
  | none => exact .idle (by simp) clean (.refl _)
  | some carrier => exact .letGo carrier clean

theorem abandon_flags (tx : Transaction) (backend : Backend) :
    (tx.abandon backend).1.standing.flags = tx.standing.flags := by
  unfold Transaction.abandon
  split <;> rfl

theorem Standing.follows_of_eq {old new : Standing} (flags : new.flags = old.flags)
    (mark : Option Mark) (uncommitted : mark ≠ some .committed) : old.Follows mark new := by
  intro committed rolledBack he
  exact ⟨committed, rolledBack, flags ▸ he, by simp [uncommitted], .inl⟩

theorem apart_of_entry (tidy : db.Tidy) (known : db.entries[ref]? = some entry) {entry' : Entry}
    (entries : db'.entries = db.entries.set ref entry')
    (serverTransactions : db'.serverTransactions = db.serverTransactions)
    (connections : db'.connections = db.connections) (backend : db'.backend = db.backend)
    (same : entry'.transaction.standing = entry.transaction.standing)
    (use : entry.Use entry') : Apart [] db db' where
  tidy := ⟨backend ▸ tidy.clean, fun ref connection he => tidy.free ref connection (by
    simpa only [connection?, connections] using he)⟩
  roots := entries ▸ .used known use
  journal := by rw [backend, List.append_nil]
  standing holder := by
    by_cases hr : holder = .root ref
    · rw [hr, standing_root known entries, same, standing_of_known known]
    · exact standing_other_of_entry entries serverTransactions hr

theorem retain_apart (tidy : db.Tidy) (held : db.isHeld ref = true) : Apart [] db (db.retain ref) := by
  obtain ⟨entry, hk, hh⟩ := exists_of_isHeld held
  exact apart_of_entry tidy hk (modify_of_known hk _) rfl rfl rfl rfl (.retained hh)

theorem expire_apart (tidy : db.Tidy) (ref openFor : Nat) : Apart [] db (db.expire ref openFor) := by
  have hsame := Transaction.standing_expire
  unfold expire
  cases hk : db.entries[ref]? with
  | none => exact .refl tidy
  | some entry =>
    dsimp only
    split
    · exact .refl tidy
    · split
      · exact apart_of_entry tidy hk (modify_of_known hk _) rfl rfl rfl (hsame _) .expired
      · exact apart_of_entry tidy hk (modify_of_known hk _) rfl rfl rfl (hsame _) .expired

theorem prune_apart (tidy : db.Tidy) : Apart [] db db.prune :=
  ⟨⟨tidy.clean, tidy.free⟩, .same, by simp [prune], standing_eq rfl rfl⟩

theorem drop_cases (tidy : db.Tidy) (ref : Nat) :
    Apart [] db (db.drop ref) ∨
    ∃ entry, db.entries[ref]? = some entry ∧
      ∀ texts, (∀ carrier, entry.transaction.carrier = some carrier → carrier.Holds texts) →
        ∃ new, new.carrier = none ∧ Moved texts (.root ref)
          (if isLive entry.transaction.carrier then some .undone else none) db (db.drop ref)
          entry.transaction.standing new := by
  unfold drop
  cases hk : db.entries[ref]? with
  | none => exact .inl (.refl tidy)
  | some entry =>
    dsimp only
    split
    · exact .inl (.refl tidy)
    · refine .inr ⟨entry, rfl, fun texts holds => ?_⟩
      have served : Served texts entry.transaction.carrier db.backend _ _ _ :=
        abandon_served tidy.clean
      refine ⟨(entry.transaction.abandon db.backend).1.standing, ?_, ⟨served.clean, tidy.free⟩, ?_, ?_,
        ?_, ?_, served, ?_⟩
      · unfold Transaction.abandon
        split
        · assumption
        · rfl
      · exact .used hk (.abandoned db.backend)
      · intro other ne
        exact standing_other_of_entry (by rfl) (by rfl) ne
      · simp [standing, hk]
      · exact standing_root hk (by rfl)
      · refine Standing.follows_of_eq (abandon_flags _ _) _ ?_
        split <;> simp
    · rename_i handles more
      exact .inl (apart_of_entry tidy hk rfl rfl rfl rfl rfl (.dropped more))

section HandOpened

variable {tx tx' : ServerTransaction}

theorem moved_of_server (tidy : db.Tidy) (kept : db.serverTransaction? ref = some tx)
    {mark : Option Mark} {backend' : Backend}
    (served : Served texts (some tx) db.backend mark (some tx') backend') :
    Moved texts (.handOpened ref) mark db (db.updateServerTransaction ref tx' backend')
      ⟨some tx, none⟩ ⟨some tx', none⟩ := by
  refine ⟨⟨served.clean, tidy.free⟩, .same, ?_, standing_handOpened kept, ?_, served, nofun⟩
  · intro other ne
    exact standing_other_of_set (by rfl) (by rfl) ne
  · exact standing_handOpened_of_set kept (by rfl)

theorem finish_moved (tidy : db.Tidy) (kept : db.serverTransaction? ref = some tx)
    (holds : tx.Holds texts) (action : ExitAction) :
    ∃ result db' new, db.finish action ref = (result, db') ∧
      Moved texts (.handOpened ref) (if result.toBool then some action.mark else none) db db'
        ⟨some tx, none⟩ new := by
  have he : db.finish action ref =
      ((tx.finish action db.backend).1, db.updateServerTransaction ref
        (tx.finish action db.backend).2.1 (tx.finish action db.backend).2.2) := by
    cases action <;> simp only [finish, serverCommit, serverRollback, kept, ServerTransaction.finish]
  rcases holds.finish_cases action db.backend with
    ⟨error, commits, rollbacks, server', hf, change, _⟩ | ⟨server', hf, change, hd⟩
  · rw [hf] at he
    refine ⟨_, _, _, he, moved_of_server tidy kept (.idle ?_ tidy.clean change)⟩
    rintro _ ⟨⟩
    exact holds
  · rw [hf] at he
    refine ⟨_, _, _, he, moved_of_server tidy kept ⟨?_, tidy.clean, ?_, ?_, ?_, ?_⟩⟩
    · rintro _ ⟨⟩
      rfl
    · show server'.journal = db.backend.server.journal ++ Mark.publish texts action.mark
      rw [change.journal, action.publish_mark]
    · intro live
      cases live
    · exact fun _ _ => by simp [isLive, hd]
    · exact fun _ _ _ => rfl

theorem serverExecute_moved (tidy : db.Tidy) (kept : db.serverTransaction? ref = some tx)
    (holds : tx.Holds texts) (sql : String) :
    ∃ result db' new, db.serverExecute ref sql = (result, db') ∧
      Moved texts (.handOpened ref) (if result.toBool then some (.ran sql) else none) db db'
        ⟨some tx, none⟩ new := by
  rcases holds.execute_cases sql db.backend with
    ⟨error, server', hx, change⟩ | ⟨count, tx', server', hx, change, hh, hd', hd⟩
  · have he : db.serverExecute ref sql =
        (.error error, db.updateServerTransaction ref tx { db.backend with server := server' }) := by
      simp only [serverExecute, kept, hx]
    refine ⟨_, _, _, he, moved_of_server tidy kept (.idle ?_ tidy.clean change)⟩
    rintro _ ⟨⟩
    exact holds
  · have live : isLive (some tx) = true := by simp [isLive, hd]
    have he : db.serverExecute ref sql =
        (.ok count, db.updateServerTransaction ref tx' { db.backend with server := server' }) := by
      simp only [serverExecute, kept, hx]
    refine ⟨_, _, _, he, moved_of_server tidy kept
      ⟨?_, tidy.clean, change.journal, fun _ => live, fun _ _ => live, ?_⟩⟩
    · rintro _ ⟨⟩
      exact hh
    · rintro _ ⟨⟩ ⟨⟩

theorem letGo_moved (tidy : db.Tidy) (kept : db.serverTransaction? ref = some tx) :
    Moved texts (.handOpened ref) (if isLive (some tx) then some .undone else none) db (db.letGo ref)
      ⟨some tx, none⟩ ⟨none, none⟩ := by
  have served : Served texts (some tx) db.backend _ none _ := .letGo tx tidy.clean
  simp only [letGo, kept]
  exact ⟨⟨served.clean, tidy.free⟩, .same, fun _ ne => standing_other_of_set (by rfl) (by rfl) ne,
    standing_handOpened kept, standing_handOpened_of_set kept rfl, served, nofun⟩

end HandOpened

section Calls

variable {handles : Nat} {tx tx' : Transaction}

theorem perform_known (known : db.entries[ref]? = some ⟨tx, handles⟩) {call : Transaction.Call}
    (params : List Json.Value) {answer : Except TransactionError Unit} {backend' : Backend}
    (did : call.perform tx db.backend = (answer, tx', backend')) :
    ∃ db', db.perform call params ref = (answer, db') ∧
      db'.entries[ref]? = some ⟨tx', handles + call.handles answer⟩ ∧ db'.backend = backend' := by
  obtain ⟨alarms, he⟩ := perform_eq known call params
  obtain ⟨hlt, _⟩ := List.getElem?_eq_some_iff.mp known
  simp only [did] at he
  exact ⟨_, he, by simp [hlt], rfl⟩

theorem drop_of_more (known : db.entries[ref]? = some ⟨tx, handles + 2⟩) :
    (db.drop ref).entries[ref]? = some ⟨tx, handles + 1⟩ ∧ (db.drop ref).backend = db.backend := by
  obtain ⟨hlt, _⟩ := List.getElem?_eq_some_iff.mp known
  simp only [drop, known]
  exact ⟨by simp [hlt], trivial⟩

theorem perform_execute_db (sql : String) (params : List Json.Value) (ref : Nat) (db : Database) :
    (db.perform (.execute sql) params ref).2 = (db.execute (.transaction ref) sql params).2 := by
  simp only [perform]

theorem perform_backend (call : Transaction.Call) (params : List Json.Value) (ref : Nat)
    (db : Database) : (db.perform call params ref).2.backend =
      (call.perform (db.transaction ref) db.backend).2.2 := by
  cases call with
  | begin =>
    simp only [perform, beginNested, Transaction.Call.perform]
    cases (db.transaction ref).begin <;> rfl
  | exit action =>
    simp only [perform, exit, Transaction.Call.perform]
    rcases (db.transaction ref).exit action db.backend with ⟨failed | _, tx, backend⟩
    · dsimp only
      split <;> rfl
    · rfl
  | commit | rollback => rfl
  | execute sql => simp only [perform_execute_db, execute, update, Transaction.Call.perform]
  | fetch sql => simp only [perform, fetch, Transaction.Call.perform]

theorem rollbacks_perform (call : Transaction.Call) (params : List Json.Value) (ref : Nat)
    (db : Database) : db.backend.server.counters.rollbacks ≤
      (db.perform call params ref).2.backend.server.counters.rollbacks := by
  obtain ⟨texts, commits, rollbacks, change⟩ :=
    ((db.transaction ref).perform_step db.backend call).change
  rw [perform_backend, change.rollbacks]
  exact Nat.le_add_right _ _

theorem rollbacks_drop (ref : Nat) (db : Database) : db.backend.server.counters.rollbacks ≤
    (db.drop ref).backend.server.counters.rollbacks := by
  unfold drop
  split
  · exact Nat.le_refl _
  · rename_i entry _
    split
    · exact Nat.le_refl _
    · show _ ≤ (entry.transaction.abandon db.backend).2.server.counters.rollbacks
      unfold Transaction.abandon
      split
      · exact Nat.le_refl _
      · rename_i carrier _
        obtain ⟨rollbacks, change⟩ := Backend.release_change carrier.connection db.backend
        simp only [Transaction.letGo]
        rw [change.rollbacks]
        exact Nat.le_add_right _ _
    · exact Nat.le_refl _

end Calls

end Database

end NestedTx
