import NestedTx.Proofs.Database.Begun
import NestedTx.Proofs.Database.Handles
import NestedTx.Proofs.Transaction.Brackets

namespace NestedTx

def Transaction.Call.depth {ε : Type} (call : Call) (answer : Except ε Unit) (depth : Nat) : Nat :=
  match call, answer with
  | .begin, .ok _ => depth + 1
  | .exit _, _ => depth - 1
  | _, _ => depth

theorem Transaction.Shift.depth_eq {tx tx' : Transaction} {call : Call}
    {answer : Except TransactionError Unit} (shift : Shift tx call answer tx') :
    tx'.depth = call.depth answer tx.depth := by
  cases shift with
  | entered => rfl
  | left pops =>
    have lengths := congrArg List.length pops
    simp only [List.length_cons] at lengths
    simp only [depth, Call.depth]
    omega
  | remained root outer => simp only [depth, Call.depth, root, outer, List.length_nil]
  | stayed stays outer =>
    rw [depth, outer]
    cases call with
    | begin =>
      cases answer with
      | error error => rfl
      | ok => cases stays
    | exit action => cases stays
    | commit | rollback | execute sql | fetch sql => rfl

namespace Database

variable {db : Database} {ref other : Nat}

def depth (ref : Nat) (db : Database) : Nat := (db.transaction ref).depth

theorem depth_of_known {entry : Entry} (known : db.entries[ref]? = some entry) :
    db.depth ref = entry.transaction.depth := by
  rw [depth, transaction_of_known known]

theorem depth_perform (held : db.isHeld ref = true) (call : Transaction.Call)
    (params : List Json.Value) : (db.perform call params ref).2.depth ref =
      call.depth (db.perform call params ref).1 (db.depth ref) := by
  obtain ⟨⟨tx, handles⟩, known, _⟩ := exists_of_isHeld held
  obtain ⟨db', did, known', _⟩ := perform_known known params
    (rfl : call.perform tx db.backend = (_, _, _))
  rw [did, depth_of_known known', depth_of_known known]
  exact (Transaction.perform_shift call tx db.backend).depth_eq

structure Unlent (db : Database) : Prop where
  connections : db.connections = []
  serverTransactions : db.serverTransactions = []

end Database

namespace Action

open Database (depth handles)

variable {action : Action} {db : Database} {ref : Nat}

theorem lookup_other (ne : action.root? ≠ some ref) (idle : action.adds = false) (db : Database) :
    (action.perform db).2.entries[ref]? = db.entries[ref]? := by
  cases known : db.entries[ref]? with
  | some entry => exact entries_other ne known
  | none =>
    have same : (action.perform db).2.entries.length ≤ db.entries.length := by
      apply Nat.le_of_not_lt
      intro longer
      have adds := @Run.adds_of_longer ⟨[], db⟩ action longer
      cases idle.symm.trans adds
    exact List.getElem?_eq_none (Nat.le_trans same (List.getElem?_eq_none_iff.mp known))

theorem handles_of_lookup {db' : Database} (same : db'.entries[ref]? = db.entries[ref]?) :
    db'.handles ref = db.handles ref := by
  rw [handles, handles, same]

theorem depth_of_lookup {db' : Database} (same : db'.entries[ref]? = db.entries[ref]?) :
    db'.depth ref = db.depth ref := by
  rw [depth, depth, Database.transaction, Database.transaction, same]

def isPlain : Action → Bool
  | begin => true
  | call _ _ _ => true
  | drop _ => true
  | expire _ _ => true
  | prune => true
  | execute _ _ => true
  | fetch _ _ => true
  | setFaults _ => true
  | answer _ _ => true
  | _ => false

theorem unlent (plain : action.isPlain = true) (h : db.Unlent) : (action.perform db).2.Unlent := by
  have kept : (action.perform db).2.connections = db.connections ∧
      (action.perform db).2.serverTransactions = db.serverTransactions := by
    cases action with
    | begin =>
      simp only [perform, Database.tell, Database.begin, Database.refuseBegin]
      split
      · split <;> exact ⟨rfl, rfl⟩
      · split
        · split <;> exact ⟨rfl, rfl⟩
        · exact ⟨rfl, rfl⟩
    | call ref call params =>
      simp only [perform]
      split
      · rename_i held
        obtain ⟨entry, known, _⟩ := Database.exists_of_isHeld held
        obtain ⟨alarms, did⟩ := Database.perform_eq known call params
        rw [did]
        exact ⟨rfl, rfl⟩
      · exact ⟨rfl, rfl⟩
    | drop ref =>
      simp only [perform, Database.drop]
      split
      · exact ⟨rfl, rfl⟩
      · split <;> exact ⟨rfl, rfl⟩
    | expire ref openFor =>
      simp only [perform, Database.expire]
      split
      · exact ⟨rfl, rfl⟩
      · split
        · exact ⟨rfl, rfl⟩
        · split <;> exact ⟨rfl, rfl⟩
    | execute | fetch =>
      simp only [perform, Database.tell, Database.execute, Database.fetch]
      split <;> exact ⟨rfl, rfl⟩
    | prune | setFaults | answer => exact ⟨rfl, rfl⟩
    | _ => cases plain
  exact ⟨kept.1.trans h.connections, kept.2.trans h.serverTransactions⟩

end Action

theorem Database.handles_drop (ref : Nat) (db : Database) :
    (db.drop ref).handles ref = db.handles ref - 1 := by
  cases known : db.entries[ref]? with
  | none => simp only [drop, handles, known]
  | some entry =>
    rw [handles_of_known known]
    simp only [drop, known]
    split
    · rename_i none
      rw [handles_of_known known, none]
    · rename_i last
      rw [handles_of_set known rfl, last]
    · rename_i more
      rw [handles_of_set known rfl, more]
      rfl

theorem Database.depth_drop (ref : Nat) (db : Database) : (db.drop ref).depth ref = db.depth ref := by
  cases known : db.entries[ref]? with
  | none => simp only [drop, known]
  | some entry =>
    obtain ⟨below, _⟩ := List.getElem?_eq_some_iff.mp known
    have dropped {db' : Database} {entry' : Entry} (set : db'.entries = db.entries.set ref entry')
        (same : entry'.transaction.depth = entry.transaction.depth) :
        db'.depth ref = db.depth ref := by
      have known' : db'.entries[ref]? = some entry' := by
        rw [set]
        exact List.getElem?_set_self below
      rw [depth_of_known known', depth_of_known known, same]
    simp only [drop, known]
    split
    · rfl
    · refine dropped rfl ?_
      simp only [Transaction.abandon]
      split <;> rfl
    · exact dropped rfl rfl

theorem Database.begin_adds (db : Database) :
    (∃ error db', db.begin = (.error error, db') ∧ db'.entries = db.entries) ∨
      ∃ tx db', db.begin = (.ok db.entries.length, db') ∧ tx.depth = 0 ∧
        db'.entries = db.entries ++ [⟨tx, 1⟩] := by
  have adds := db.entries_begin
  rcases db.begin_fresh with ⟨error, db', begun, unmoved⟩ | ⟨_, entry, db', begun, grown, _⟩
  · exact .inl ⟨error, db', begun, unmoved.entries⟩
  · rw [begun] at adds
    rcases adds with same | ⟨id, carrier, settings, root⟩
    · have lengths := congrArg List.length (same.symm.trans grown)
      simp at lengths
    · exact .inr ⟨.root id carrier settings, db', begun, rfl, root⟩

theorem Database.expire_eq (ref openFor : Nat) (db : Database) :
    (db.expire ref openFor).handles ref = db.handles ref ∧
      (db.expire ref openFor).depth ref = db.depth ref := by
  cases known : db.entries[ref]? with
  | none =>
    simp only [expire, known]
    exact ⟨trivial, trivial⟩
  | some entry =>
    have outer : entry.transaction.expire.depth = entry.transaction.depth := by
      rw [Transaction.expire]
      split <;> rfl
    obtain ⟨below, _⟩ := List.getElem?_eq_some_iff.mp known
    have expired {db' : Database} (set : db'.entries =
        db.entries.set ref { entry with transaction := entry.transaction.expire }) :
        db'.handles ref = db.handles ref ∧ db'.depth ref = db.depth ref := by
      have known' : db'.entries[ref]? =
          some { entry with transaction := entry.transaction.expire } := by
        rw [set]
        exact List.getElem?_set_self below
      rw [handles_of_known known', handles_of_known known, depth_of_known known', depth_of_known known]
      exact ⟨rfl, outer⟩
    simp only [expire, known]
    split
    · exact ⟨rfl, rfl⟩
    · split
      · exact expired (modify_of_known known _)
      · exact expired (modify_of_known known _)

end NestedTx
