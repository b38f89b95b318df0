import NestedTx.Proofs.Database.Moves

namespace NestedTx

namespace Database

theorem entries_begin (db : Database) : db.begin.2.entries = db.entries ∨
    ∃ id carrier settings, db.begin.2.entries = db.entries ++ [⟨.root id carrier settings, 1⟩] := by
  have refused (cause : DriverError) (db' : Database) (same : db'.entries = db.entries) :
      (db'.refuseBegin cause).2.entries = db.entries := by
    simp only [refuseBegin]
    split
    · exact same
    · exact same
  simp only [begin]
  rcases db.backend.checkout with ⟨error | connection, backend⟩
  · exact .inl (refused error _ rfl)
  · dsimp only
    rcases ServerTransaction.begin connection backend with ⟨error | carrier, backend'⟩
    · exact .inl (refused error _ rfl)
    · exact .inr ⟨_, _, _, rfl⟩

structure SameRoots (db db' : Database) : Prop where
  entries : db'.entries = db.entries
  tracked : db'.tracked = db.tracked

theorem finish_sameRoots (action : ExitAction) (ref : Nat) (db : Database) :
    db.SameRoots (db.finish action ref).2 := by
  cases action with
  | commit =>
    simp only [finish, serverCommit]
    split <;> exact ⟨rfl, rfl⟩
  | rollback =>
    simp only [finish, serverRollback]
    split <;> exact ⟨rfl, rfl⟩

theorem ping_sameRoots (target : PingTarget) (db : Database) : db.SameRoots (db.ping target).2 := by
  cases target with
  | pool =>
    simp only [ping, pingPool]
    split <;> exact ⟨rfl, rfl⟩
  | connection ref =>
    simp only [ping, pingConnection]
    split <;> exact ⟨rfl, rfl⟩

theorem beginOn_sameRoots (ref : Nat) (db : Database) : db.SameRoots (db.beginOn ref).2 := by
  simp only [beginOn]
  split
  · exact ⟨rfl, rfl⟩
  · split <;> exact ⟨rfl, rfl⟩

end Database

namespace Action

variable {action : Action} {ref other : Nat}

def root? : Action → Option Nat
  | call ref _ _ => some ref
  | retain ref => some ref
  | drop ref => some ref
  | expire ref _ => some ref
  | _ => none

def adds : Action → Bool
  | begin => true
  | takeUp _ _ _ => true
  | _ => false

theorem sameRoots_of_idle (rootless : action.root? = none) (idle : action.adds = false)
    (keeps : action ≠ .prune) (db : Database) : db.SameRoots (action.perform db).2 := by
  cases action with
  | call | retain | drop | expire => cases rootless
  | begin | takeUp => cases idle
  | prune => exact absurd rfl keeps
  | ping target => exact db.ping_sameRoots target
  | beginOn ref => exact db.beginOn_sameRoots ref
  | finish action ref => exact db.finish_sameRoots action ref
  | setFaults | answer => exact ⟨rfl, rfl⟩
  | execute | fetch | borrow | attach | giveBack | executeOn | fetchOn | serverExecute | serverFetch
  | letGo =>
    simp only [perform, Database.tell, Database.execute, Database.fetch, Database.borrow,
      Database.attach, Database.giveBack, Database.executeOn, Database.fetchOn,
      Database.serverExecute, Database.serverFetch, Database.letGo]
    split <;> exact ⟨rfl, rfl⟩

theorem entries_of_idle (rootless : action.root? = none) (idle : action.adds = false) (db : Database) :
    (action.perform db).2.entries = db.entries := by
  by_cases prunes : action = .prune
  · subst prunes
    rfl
  · exact (sameRoots_of_idle rootless idle prunes db).entries

theorem entries_of_rootless (rootless : action.root? = none) (db : Database) :
    (action.perform db).2.entries = db.entries ∨
      ∃ id carrier settings, (action.perform db).2.entries =
        db.entries ++ [⟨.root id carrier settings, 1⟩] := by
  cases idle : action.adds with
  | false => exact .inl (entries_of_idle rootless idle db)
  | true =>
    cases action with
    | begin => exact db.entries_begin
    | takeUp ref id settings =>
      simp only [perform, Database.takeUp]
      cases db.serverTransaction? ref with
      | none => exact .inl rfl
      | some carrier => exact .inr ⟨id, carrier, settings, rfl⟩
    | _ => cases idle

theorem entries_of_root (about : action.root? = some ref) (db : Database) :
    (action.perform db).2.entries = db.entries ∨
      ∃ entry', (action.perform db).2.entries = db.entries.set ref entry' := by
  cases action with
  | call ref' call params =>
    cases about
    simp only [perform, Database.tell]
    split
    · rename_i held
      obtain ⟨entry, known, _⟩ := Database.exists_of_isHeld held
      obtain ⟨alarms, did⟩ := Database.perform_eq known call params
      rw [did]
      exact .inr ⟨_, rfl⟩
    · exact .inl rfl
  | retain ref' =>
    cases about
    simp only [perform]
    split
    · rename_i held
      obtain ⟨entry, known, _⟩ := Database.exists_of_isHeld held
      exact .inr ⟨_, Database.modify_of_known known _⟩
    · exact .inl rfl
  | drop ref' =>
    cases about
    simp only [perform, Database.drop]
    split
    · exact .inl rfl
    · split
      · exact .inl rfl
      · exact .inr ⟨_, rfl⟩
      · exact .inr ⟨_, rfl⟩
  | expire ref' openFor =>
    cases about
    simp only [perform, Database.expire]
    split
    · exact .inl rfl
    · rename_i entry known
      have set : (db.setTransaction ref entry.transaction.expire).entries = _ :=
        Database.modify_of_known known _
      split
      · exact .inl rfl
      · split
        · exact .inr ⟨_, set⟩
        · exact .inr ⟨_, set⟩
  | _ => cases about

theorem length_le (action : Action) (db : Database) :
    db.entries.length ≤ (action.perform db).2.entries.length := by
  cases about : action.root? with
  | none =>
    rcases entries_of_rootless about db with same | ⟨id, carrier, settings, grown⟩
    · simp [same]
    · simp [grown]
  | some ref =>
    rcases entries_of_root about db with same | ⟨entry', set⟩
    · simp [same]
    · simp [set]

theorem perform_of_unknown (about : action.root? = some ref) {db : Database}
    (unknown : db.entries[ref]? = none) : (action.perform db).2 = db := by
  have unheld : db.isHeld ref = false := by simp [Database.isHeld, unknown]
  cases action with
  | call ref' call params =>
    cases about
    simp [perform, unheld]
  | retain ref' =>
    cases about
    simp [perform, unheld]
  | drop ref' =>
    cases about
    simp only [perform, Database.drop, unknown]
  | expire ref' openFor =>
    cases about
    simp only [perform, Database.expire, unknown]
  | _ => cases about

theorem entries_other (ne : action.root? ≠ some other) {db : Database} {entry : Entry}
    (known : db.entries[other]? = some entry) :
    (action.perform db).2.entries[other]? = some entry := by
  obtain ⟨hlt, _⟩ := List.getElem?_eq_some_iff.mp known
  cases about : action.root? with
  | none =>
    rcases entries_of_rootless about db with same | ⟨id, carrier, settings, grown⟩
    · rw [same, known]
    · rw [grown, List.getElem?_append_left hlt, known]
  | some ref =>
    have differs : ref ≠ other := fun same => ne (same ▸ about)
    rcases entries_of_root about db with same | ⟨entry', set⟩
    · rw [same, known]
    · rw [set, List.getElem?_set_ne differs, known]

end Action

end NestedTx
