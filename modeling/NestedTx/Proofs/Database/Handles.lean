import NestedTx.Database.Scope
import NestedTx.Proofs.Database.Untouched

namespace NestedTx

namespace Database

def handles (ref : Nat) (db : Database) : Nat :=
  match db.entries[ref]? with
  | some entry => entry.handles
  | none => 0

def after (actions : List Action) (db : Database) : Database :=
  actions.foldl (fun db action => (action.perform db).2) db

theorem handles_of_known {db : Database} {ref : Nat} {entry : Entry}
    (known : db.entries[ref]? = some entry) : db.handles ref = entry.handles := by
  simp only [handles, known]

theorem isHeld_iff {db : Database} {ref : Nat} : db.isHeld ref = true ↔ 0 < db.handles ref := by
  unfold isHeld handles
  cases db.entries[ref]? with
  | none => simp
  | some entry => simp

theorem handles_of_set {db db' : Database} {ref : Nat} {entry entry' : Entry}
    (known : db.entries[ref]? = some entry) (set : db'.entries = db.entries.set ref entry') :
    db'.handles ref = entry'.handles := by
  obtain ⟨hlt, _⟩ := List.getElem?_eq_some_iff.mp known
  apply handles_of_known
  rw [set]
  exact List.getElem?_set_self hlt

end Database

open Database

namespace Action

def drops : Action → List Nat
  | drop ref => [ref]
  | _ => []

theorem exists_drops (action : Action) : ∃ gone : Option Nat, action.drops = gone.toList := by
  cases action with
  | drop ref => exact ⟨some ref, rfl⟩
  | _ => exact ⟨none, rfl⟩

variable {action : Action} {ref : Nat} {db : Database} {entry : Entry}

theorem handles_call (held : db.isHeld ref = true) (call : Transaction.Call)
    (params : List Json.Value) :
    (db.perform call params ref).2.handles ref =
      db.handles ref + call.handles (db.perform call params ref).1 := by
  obtain ⟨entry, known, _⟩ := exists_of_isHeld held
  obtain ⟨alarms, did⟩ := perform_eq known call params
  have set : (db.perform call params ref).2.entries = db.entries.set ref
      ⟨(call.perform entry.transaction db.backend).2.1,
        entry.handles + call.handles (db.perform call params ref).1⟩ := by
    rw [did]
  rw [handles_of_known known, handles_of_set known set]

theorem handles_le_of_root (about : action.root? = some ref)
    (known : db.entries[ref]? = some entry) :
    entry.handles ≤ (action.perform db).2.handles ref + action.drops.count ref := by
  cases action with
  | call ref' call params =>
    cases about
    simp only [perform]
    split
    · rename_i held
      have more := handles_call held call params
      rw [handles_of_known known] at more
      show _ ≤ (db.perform call params ref).2.handles ref + 0
      omega
    · exact Nat.le_of_eq (handles_of_known known).symm
  | retain ref' =>
    cases about
    simp only [perform]
    split
    · have set : (db.retain ref).entries = _ := modify_of_known known _
      rw [handles_of_set known set]
      exact Nat.le_succ _
    · exact Nat.le_of_eq (handles_of_known known).symm
  | drop ref' =>
    cases about
    have one : (Action.drop ref).drops.count ref = 1 := List.count_singleton_self
    rw [one]
    simp only [perform, Database.drop, known]
    split
    · rename_i none
      rw [none]
      exact Nat.zero_le _
    · rename_i last
      rw [last]
      exact Nat.le_add_left 1 _
    · rename_i handles _ more
      exact Nat.le_of_eq (by rw [handles_of_set known (by rfl), more])
  | expire ref' openFor =>
    cases about
    have set : (db.setTransaction ref entry.transaction.expire).entries = _ := modify_of_known known _
    simp only [perform, Database.expire, known]
    split
    · exact Nat.le_of_eq (handles_of_known known).symm
    · split
      · exact Nat.le_of_eq (handles_of_set known set).symm
      · exact Nat.le_of_eq (handles_of_set known set).symm
  | _ => cases about

theorem handles_le (action : Action) (db : Database) (ref : Nat) :
    db.handles ref ≤ (action.perform db).2.handles ref + action.drops.count ref := by
  cases known : db.entries[ref]? with
  | none =>
    have none : db.handles ref = 0 := by simp only [handles, known]
    rw [none]
    exact Nat.zero_le _
  | some entry =>
    rw [handles_of_known known]
    by_cases about : action.root? = some ref
    · exact handles_le_of_root about known
    · rw [handles_of_known (entries_other about known)]
      exact Nat.le_add_right _ _

end Action

namespace Database

variable {db : Database} {ref : Nat}

theorem after_append (actions later : List Action) (db : Database) :
    db.after (actions ++ later) = (db.after actions).after later :=
  List.foldl_append

theorem handles_le_after (actions : List Action) (db : Database) (ref : Nat) :
    db.handles ref ≤ (db.after actions).handles ref + (actions.flatMap Action.drops).count ref := by
  induction actions generalizing db with
  | nil => exact Nat.le_add_right _ _
  | cons action actions ih =>
    have first := action.handles_le db ref
    have rest := ih (action.perform db).2
    have next : db.after (action :: actions) = ((action.perform db).2.after actions) := rfl
    rw [next, List.flatMap_cons, List.count_append]
    omega

theorem perform_of_held (held : db.isHeld ref = true) (call : Transaction.Call)
    (params : List Json.Value) :
    ((Action.call ref call params).perform db).2 = (db.perform call params ref).2 := by
  simp only [Action.perform, if_pos held]
  rfl

theorem enterNested_db (ref : Nat) (db : Database) :
    (db.enterNested ref).2 = (db.perform .begin [] ref).2 := by
  simp only [enterNested, perform]
  rcases db.beginNested ref with ⟨_ | _, db'⟩ <;> rfl

theorem held_perform (held : db.isHeld ref = true) (call : Transaction.Call)
    (params : List Json.Value) : (db.perform call params ref).2.isHeld ref = true := by
  have more := Action.handles_call held call params
  rw [isHeld_iff] at held ⊢
  omega

theorem entries_after {actions : List Action} (others : ∀ action ∈ actions, action.root? ≠ some ref)
    {entry : Entry} (known : db.entries[ref]? = some entry) :
    (db.after actions).entries[ref]? = some entry := by
  induction actions generalizing db with
  | nil => exact known
  | cons action actions ih =>
    have other := others action List.mem_cons_self
    have rest : ∀ action ∈ actions, action.root? ≠ some ref :=
      fun action mem => others action (List.mem_cons_of_mem _ mem)
    exact ih rest (Action.entries_other other known)

end Database

theorem Run.db_steps (run : Run) (actions : List Action) :
    (run.steps actions).db = run.db.after actions := by
  induction actions generalizing run with
  | nil => rfl
  | cons action actions ih => exact ih (run.step action)

namespace Scope

inductive Way
  | commit
  | rollback
  | finish
  | finishAs (action : ExitAction)
  | drop
  | unwind
deriving DecidableEq, Repr

def leave (way : Way) (scope : Scope) (db : Database) : Database :=
  match way with
  | .commit => (scope.commit db).2
  | .rollback => (scope.rollback db).2
  | .finish => (scope.finish db).2
  | .finishAs action => (scope.finishAs action db).2
  | .drop => scope.drop db
  | .unwind => scope.unwind db

def calls (scope : Scope) : Way → List Transaction.Call
  | .commit => [.commit, .exit .rollback]
  | .rollback => [.rollback, .exit .rollback]
  | .finish => [.exit scope.onExit]
  | .finishAs action => [.exit action]
  | .drop => [.exit scope.onExit]
  | .unwind => [.exit .rollback]

def actions (way : Way) (scope : Scope) : List Action :=
  (scope.calls way).map (fun call => .call scope.ref call []) ++ [.drop scope.ref]

variable {scope : Scope} {db : Database}

theorem finishAs_eq (held : db.isHeld scope.ref = true) (action : ExitAction) :
    (scope.finishAs action db).2 =
      db.after [.call scope.ref (.exit action) [], .drop scope.ref] := by
  have left := perform_of_held held (.exit action) []
  show _ = ((Action.call scope.ref (.exit action) []).perform db).2.drop scope.ref
  rw [left]
  rfl

theorem leave_eq (held : db.isHeld scope.ref = true) (way : Way) :
    scope.leave way db = db.after (scope.actions way) := by
  cases way with
  | commit =>
    have rest := finishAs_eq (held_perform held .commit []) .rollback
    show (scope.finishAs .rollback (db.perform .commit [] scope.ref).2).2 =
      (((Action.call scope.ref .commit []).perform db).2).after _
    rw [perform_of_held held]
    exact rest
  | rollback =>
    have rest := finishAs_eq (held_perform held .rollback []) .rollback
    show (scope.finishAs .rollback (db.perform .rollback [] scope.ref).2).2 =
      (((Action.call scope.ref .rollback []).perform db).2).after _
    rw [perform_of_held held]
    exact rest
  | finish => exact finishAs_eq held scope.onExit
  | finishAs action => exact finishAs_eq held action
  | drop => exact finishAs_eq held scope.onExit
  | unwind => exact finishAs_eq held .rollback

theorem root_of_actions {way : Way} {action : Action} (mem : action ∈ scope.actions way) :
    action.root? = some scope.ref := by
  rcases List.mem_append.mp mem with mem | mem
  · obtain ⟨call, _, rfl⟩ := List.mem_map.mp mem
    rfl
  · cases List.mem_singleton.mp mem
    rfl

theorem drops_actions (way : Way) (scope : Scope) :
    (scope.actions way).flatMap Action.drops = [scope.ref] := by
  cases way <;> rfl

end Scope

end NestedTx
