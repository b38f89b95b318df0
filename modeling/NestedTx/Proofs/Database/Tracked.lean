import NestedTx.Database.Tracking
import NestedTx.Proofs.Database.Begun

namespace NestedTx

namespace Database

def kept (db : Database) : List Nat := db.tracked.map Prod.snd

def counted (db : Database) : List Nat := db.prune.kept

variable {db db' : Database} {ref : Nat}

theorem kept_filter (db : Database) (p : Nat → Bool) :
    (db.tracked.filter fun t => p t.2).map Prod.snd = db.kept.filter p := by
  rw [kept, List.filter_map]
  rfl

theorem counted_eq (db : Database) : db.counted = db.kept.filter fun ref => db.isOpen ref :=
  db.kept_filter fun ref => db.isOpen ref

theorem isOpen_iff {entry : Entry} (known : db.entries[ref]? = some entry) :
    db.isOpen ref = true ↔ 0 < entry.handles ∧ entry.transaction.carrier ≠ none := by
  simp only [isOpen, known, Bool.and_eq_true, decide_eq_true_eq, Transaction.isFinalized,
    Bool.not_eq_true', Option.isNone_eq_false_iff, Option.isSome_iff_ne_none]

theorem exists_of_isOpen (opened : db.isOpen ref = true) : ∃ entry, db.entries[ref]? = some entry := by
  cases known : db.entries[ref]? with
  | none => simp [isOpen, known] at opened
  | some entry => exact ⟨entry, rfl⟩

theorem isOpen_of_entries (same : db'.entries[ref]? = db.entries[ref]?) :
    db'.isOpen ref = db.isOpen ref := by
  simp only [isOpen, same]

end Database

namespace Action

variable {action : Action} {db : Database} {ref : Nat}

theorem isOpen_of_perform (old : ref < db.entries.length)
    (opened : (action.perform db).2.isOpen ref = true) : db.isOpen ref = true := by
  have known := List.getElem?_eq_getElem old
  obtain ⟨entry', known', ages⟩ := action.ages known
  obtain ⟨held, some⟩ := (Database.isOpen_iff known').mp opened
  rw [Database.isOpen_iff known]
  exact ⟨ages.held held, fun spent => some (ages.carrier_eq_none spent)⟩

theorem tracked_of_root (about : action.root? = some ref) (db : Database) :
    (action.perform db).2.tracked = db.tracked := by
  cases action with
  | call ref call params =>
    simp only [perform]
    split
    · rename_i held
      obtain ⟨entry, known, _⟩ := Database.exists_of_isHeld held
      obtain ⟨alarms, did⟩ := Database.perform_eq known call params
      rw [did]
      rfl
    · rfl
  | retain ref =>
    simp only [perform]
    split <;> rfl
  | drop ref =>
    simp only [perform, Database.drop]
    split
    · rfl
    · split <;> rfl
  | expire ref openFor =>
    simp only [perform, Database.expire]
    split
    · rfl
    · split
      · rfl
      · split <;> rfl
  | _ => cases about

theorem tracked_eq (notBegin : action ≠ .begin) (notPrune : action ≠ .prune) (db : Database) :
    (action.perform db).2.tracked = db.tracked := by
  cases about : action.root? with
  | some ref => exact tracked_of_root about db
  | none =>
    cases idle : action.adds with
    | false => exact (sameRoots_of_idle about idle notPrune db).tracked
    | true =>
      cases action with
      | begin => exact absurd rfl notBegin
      | takeUp hand id settings =>
        simp only [perform, Database.takeUp]
        cases db.serverTransaction? hand with
        | none => rfl
        | some tx => rfl
      | _ => cases idle

end Action

namespace Run

structure Tracking (run : Run) : Prop where
  once : run.db.kept.Nodup
  begun : ∀ ref ∈ run.db.kept, ref < run.db.entries.length ∧ run.tookUp ref = false
  complete : ∀ ref, run.db.isOpen ref = true → run.tookUp ref = false → ref ∈ run.db.kept
  took : ∀ ref, run.tookUp ref = true → ref < run.db.entries.length

variable {run : Run} {action : Action}

theorem length_le_step (run : Run) (action : Action) :
    run.db.entries.length ≤ (run.step action).db.entries.length :=
  action.length_le run.db

namespace Tracking

theorem next (h : run.Tracking) {old fresh : List Nat} (kept : (run.step action).db.kept = old ++ fresh)
    (sublist : old.Sublist run.db.kept)
    (alive : ∀ ref ∈ run.db.kept, (run.step action).db.isOpen ref = true → ref ∈ old)
    (once : fresh.Nodup)
    (new : ∀ ref ∈ fresh, run.db.entries.length ≤ ref ∧
      ref < (run.step action).db.entries.length ∧ (run.step action).tookUp ref = false)
    (all : ∀ ref, run.db.entries.length ≤ ref → (run.step action).db.isOpen ref = true →
      (run.step action).tookUp ref = false → ref ∈ fresh) : (run.step action).Tracking where
  once := by
    rw [kept, List.nodup_append]
    refine ⟨sublist.nodup h.once, once, ?_⟩
    rintro ref mem _ mem' rfl
    have below := (h.begun ref (sublist.mem mem)).1
    have above := (new ref mem').1
    omega
  begun ref mem := by
    rw [kept] at mem
    rcases List.mem_append.mp mem with mem | mem
    · obtain ⟨below, begun⟩ := h.begun ref (sublist.mem mem)
      exact ⟨Nat.lt_of_lt_of_le below (length_le_step run action), (tookUp_old below).trans begun⟩
    · exact (new ref mem).2
  complete ref opened begun := by
    rw [kept]
    by_cases below : ref < run.db.entries.length
    · have before := h.complete ref (Action.isOpen_of_perform below opened)
        ((tookUp_old below).symm.trans begun)
      exact List.mem_append_left _ (alive ref before opened)
    · exact List.mem_append_right _ (all ref (Nat.le_of_not_lt below) opened begun)
  took ref took := by
    rcases tookUp_of_step took with before | ⟨_, below, _⟩
    · exact Nat.lt_of_lt_of_le (h.took ref before) (length_le_step run action)
    · exact below

theorem prune (h : run.Tracking) (notBegin : action ≠ .begin)
    (sublist : (run.step action).db.kept.Sublist run.db.kept)
    (alive : ∀ ref ∈ run.db.kept, (run.step action).db.isOpen ref = true →
      ref ∈ (run.step action).db.kept) : (run.step action).Tracking := by
  apply h.next (List.append_nil _).symm sublist alive List.nodup_nil nofun
  intro ref new opened begun
  obtain ⟨entry, known⟩ := Database.exists_of_isOpen opened
  rcases (new_root new known).2 with ⟨begins, _⟩ | took
  · exact absurd begins notBegin
  · cases took.symm.trans begun

theorem begin (h : run.Tracking) : (run.step .begin).Tracking := by
  rcases run.db.begin_fresh with ⟨error, db', he, unmoved⟩ | ⟨id, entry, db', he, grown, own, tracked⟩
  · have hdb : (run.step .begin).db = db' := by simp only [db_step, Action.perform, he, Database.tell]
    have same : (run.step .begin).db.kept = run.db.kept := by
      rw [hdb, Database.kept, unmoved.tracked, Database.kept]
    refine h.next (List.append_nil _).symm (same ▸ List.Sublist.refl _) ?_ List.nodup_nil ?_ ?_
    · intro ref mem _
      rwa [same]
    · intro ref mem
      cases mem
    · intro ref new opened
      obtain ⟨entry, known⟩ := Database.exists_of_isOpen opened
      have below := (List.getElem?_eq_some_iff.mp known).1
      rw [hdb, unmoved.entries] at below
      omega
  · have hdb : (run.step .begin).db = db' := by simp only [db_step, Action.perform, he, Database.tell]
    have longer : (run.step .begin).db.entries.length = run.db.entries.length + 1 := by
      simp [hdb, grown]
    have kept : (run.step .begin).db.kept =
        run.db.kept.filter (fun ref => db'.isOpen ref) ++ [run.db.entries.length] := by
      rw [hdb, Database.kept, tracked, List.map_append, ← Database.kept_filter]
      rfl
    refine h.next kept List.filter_sublist ?_ (by simp) ?_ ?_
    · intro ref mem opened
      rw [hdb] at opened
      exact List.mem_filter.mpr ⟨mem, opened⟩
    · intro ref mem
      cases List.mem_singleton.mp mem
      refine ⟨Nat.le_refl _, by omega, ?_⟩
      apply Bool.eq_false_iff.mpr
      intro took
      rcases tookUp_of_step took with before | ⟨_, _, _, _, _, he⟩
      · exact absurd (h.took _ before) (Nat.lt_irrefl _)
      · cases he
    · intro ref new opened _
      obtain ⟨entry, known⟩ := Database.exists_of_isOpen opened
      rw [(new_root new known).1]
      exact List.mem_singleton_self _

theorem step (h : run.Tracking) (action : Action) : (run.step action).Tracking := by
  by_cases begins : action = .begin
  · subst begins
    exact h.begin
  · by_cases prunes : action = .prune
    · subst prunes
      have kept : (run.step .prune).db.kept = run.db.kept.filter fun ref => run.db.isOpen ref :=
        run.db.counted_eq
      apply h.prune begins
      · rw [kept]
        exact List.filter_sublist
      · intro ref mem opened
        rw [kept]
        exact List.mem_filter.mpr ⟨mem, opened⟩
    · have kept : (run.step action).db.kept = run.db.kept := by
        rw [Database.kept, db_step, Action.tracked_eq begins prunes, Database.kept]
      apply h.prune begins
      · exact kept ▸ List.Sublist.refl _
      · intro ref mem _
        rwa [kept]

end Tracking

theorem start_tracking (server : Server) (settings : Settings) (actions : List Action) :
    ((start server settings).steps actions).Tracking := by
  have steps {run : Run} (h : run.Tracking) : (run.steps actions).Tracking := by
    induction actions generalizing run with
    | nil => exact h
    | cons action actions ih => exact ih (h.step action)
  apply steps
  constructor
  · exact List.nodup_nil
  · exact nofun
  · intro ref opened
    simp [start, Database.on, Database.isOpen] at opened
  · intro ref took
    simp [start, tookUp] at took

theorem Tracking.mem_counted (h : run.Tracking) {ref : Nat} :
    ref ∈ run.db.counted ↔ run.db.isOpen ref = true ∧ run.tookUp ref = false := by
  rw [Database.counted_eq, List.mem_filter]
  constructor
  · rintro ⟨mem, opened⟩
    exact ⟨opened, (h.begun ref mem).2⟩
  · rintro ⟨opened, begun⟩
    exact ⟨h.complete ref opened begun, opened⟩

theorem Tracking.nodup_counted (h : run.Tracking) : run.db.counted.Nodup := by
  rw [Database.counted_eq]
  exact List.filter_sublist.nodup h.once

end Run

end NestedTx
