import NestedTx.Proofs.Database.Commits
import NestedTx.Proofs.Database.Exits

namespace NestedTx

open History

theorem Transaction.commits_execute (sql : String) (tx : Transaction) (backend : Backend) :
    ((Call.execute sql).perform tx backend).2.2.server.counters.commits =
      backend.server.counters.commits := by
  have step := tx.perform_step backend (.execute sql)
  generalize (Call.execute sql).perform tx backend = done at step
  obtain ⟨answer, tx', backend'⟩ := done
  cases step with
  | lateForAll | lateForLevel | barred | closed => rfl
  | @executed carrier _ _ _ _ _ _ run =>
    obtain ⟨_, change⟩ := carrier.execute_change sql backend
    rw [run] at change
    exact change.commits

namespace Run

variable {run run' : Run} {before : List String} {ref : Nat} {entry : Entry}

theorem Effect.about (effect : Effect run run') {old : Database.Standing}
    (known : run.db.standing (.root ref) = some old) :
    (run'.db.standing (.root ref) = some old ∧ Same (.root ref) run.history run'.history) ∨
    ∃ mark new, run'.history = mark? (.root ref) mark run.history ∧
      run'.db.standing (.root ref) = some new ∧
      Served (statements (.root ref) run.history) old.carrier run.db.backend mark new.carrier
        run'.db.backend := by
  cases effect with
  | apart apart => exact .inl ⟨(apart.standing _).trans known, rfl, fun _ => .rfl⟩
  | @alone _ sql apart => exact .inl ⟨(apart.standing _).trans known, same_alone sql⟩
  | @born _ holder born =>
    have ne : .root ref ≠ holder := by
      rintro rfl
      cases born.fresh.symm.trans known
    exact .inl ⟨(born.others _ ne).trans known, rfl, fun _ => .rfl⟩
  | @takenUp _ hand root takenUp =>
    have ne : Holder.root ref ≠ .root root := by
      rintro ⟨⟩
      cases takenUp.fresh.symm.trans known
    exact .inl ⟨(takenUp.others (.root ref) nofun ne).trans known, same_takenUp ne⟩
  | @moved _ holder mark _ new moved =>
    by_cases same : holder = .root ref
    · subst same
      cases moved.standing_old.symm.trans known
      exact .inr ⟨mark, new, rfl, moved.standing_new, moved.served⟩
    · have ne : .root ref ≠ holder := Ne.symm same
      exact .inl ⟨(moved.others _ ne).trans known, same_mark? ne mark⟩

namespace Consistent

theorem statements_step (h : run.Consistent before) (known : run.db.entries[ref]? = some entry)
    (action : Action) :
    statements (.root ref) run.history <+: statements (.root ref) (run.step action).history := by
  rcases (h.backed.effect action).about (Database.standing_of_known known) with
    ⟨_, same⟩ | ⟨mark, _, history, _⟩
  · have kept : statements (.root ref) (run.step action).history = statements (.root ref) run.history :=
      congrArg Mark.texts same.marks_eq
    exact kept ▸ List.prefix_rfl
  · rw [history, statements_mark?]
    unfold Mark.extend
    split
    · exact List.prefix_append _ _
    · exact List.prefix_rfl

theorem statements_steps (h : run.Consistent before) (known : run.db.entries[ref]? = some entry)
    (actions : List Action) :
    statements (.root ref) run.history <+: statements (.root ref) (run.steps actions).history := by
  induction actions generalizing run entry with
  | nil => exact List.prefix_rfl
  | cons action actions ih =>
    obtain ⟨entry', known', _⟩ := action.ages known
    exact (h.statements_step known action).trans
      (ih (h.effect (h.backed.effect action)) known')

theorem spent_step (h : run.Consistent before) (known : run.db.entries[ref]? = some entry)
    (spent : isLive (run.db.held (.root ref)) = false) (action : Action) :
    isLive ((run.step action).db.held (.root ref)) = false ∧
      ∀ mark, .marked (.root ref) mark ∈ (run.step action).history ↔
        .marked (.root ref) mark ∈ run.history := by
  rw [Database.held_of_known known] at spent
  rcases (h.backed.effect action).about (Database.standing_of_known known) with
    ⟨standing, same⟩ | ⟨mark, new, history, standing, served⟩
  · rw [Database.held, standing]
    exact ⟨spent, same.mem_iff⟩
  · constructor
    · rw [Database.held, standing]
      exact Bool.eq_false_iff.mpr fun live => by cases spent.symm.trans (served.live live)
    · intro done
      rw [history, mem_mark?]
      refine ⟨?_, .inr⟩
      rintro (acted | old)
      · cases spent.symm.trans (served.acted done acted)
      · exact old

theorem spent_steps (h : run.Consistent before) (known : run.db.entries[ref]? = some entry)
    (spent : isLive (run.db.held (.root ref)) = false) (actions : List Action) :
    ∀ mark, .marked (.root ref) mark ∈ (run.steps actions).history ↔
      .marked (.root ref) mark ∈ run.history := by
  induction actions generalizing run entry with
  | nil => exact fun _ => .rfl
  | cons action actions ih =>
    obtain ⟨entry', known', _⟩ := action.ages known
    obtain ⟨spent', same⟩ := h.spent_step known spent action
    intro mark
    rw [← same mark]
    exact ih (h.effect (h.backed.effect action)) known' spent' mark

theorem journal_of_commit (h : run.Consistent before) (held : run.db.isHeld ref = true)
    (call : Transaction.Call) (params : List Json.Value)
    (answered : (run.db.perform call params ref).1 = .ok ())
    (counted : run.db.backend.server.counters.commits <
      (run.db.perform call params ref).2.backend.server.counters.commits) :
    (run.db.perform call params ref).2.backend.server.journal =
      run.db.backend.server.journal ++ statements (.root ref) run.history := by
  obtain ⟨⟨tx, handles⟩, known, _⟩ := Database.exists_of_isHeld held
  obtain ⟨alarms, did⟩ := Database.perform_eq known call params
  have other : ∀ sql, call ≠ .execute sql := by
    rintro sql rfl
    rw [did] at counted
    dsimp only at counted
    rw [tx.commits_execute] at counted
    exact absurd counted (Nat.lt_irrefl _)
  rw [did] at answered counted ⊢
  obtain ⟨served, _⟩ := tx.perform_served h.tidy.clean (h.backed.holds_root known) call
  dsimp only at answered counted
  rw [answered, Transaction.Call.mark?_eq_committed other counted] at served
  exact served.journal

end Consistent

def CommitsBy (ref : Nat) (run : Run) (later : List Action) : Prop :=
  .marked (.root ref) .committed ∉ run.history ∧
    .marked (.root ref) .committed ∈ (run.steps later).history

theorem history_suffix (run : Run) (actions : List Action) :
    run.history <:+ (run.steps actions).history := by
  induction actions generalizing run with
  | nil => exact List.suffix_rfl
  | cons action actions ih => exact (List.suffix_append _ _).trans (ih (run.step action))

theorem db_exits (held : run.db.isHeld ref = true) (exits : List ExitAction) :
    (run.steps (exits.map fun action => .call ref (.exit action) [])).db =
      (run.db.exits ref exits).2 := by
  induction exits generalizing run with
  | nil => rfl
  | cons action exits ih =>
    have left : (run.step (.call ref (.exit action) [])).db = (run.db.exit action ref).2 :=
      Database.perform_of_held held (.exit action) []
    have heldThen : (run.step (.call ref (.exit action) [])).db.isHeld ref = true :=
      left ▸ Database.held_perform held (.exit action) []
    have rest := ih heldThen
    rw [left] at rest
    exact rest

namespace Consistent

theorem commitsBy_of_live (h : run.Consistent before) (known : run.db.entries[ref]? = some entry)
    (handles : 0 < entry.handles) (sound : entry.transaction.Sound)
    (live : isLive entry.transaction.carrier = true) :
    run.CommitsBy ref (.setFaults .none ::
      List.replicate (entry.transaction.depth + 1) (.call ref (.exit .commit) [])) := by
  obtain ⟨tx, handles'⟩ := entry
  obtain ⟨carrier, carries, isOpen⟩ := (Option.any_eq_true _ _).mp live
  refine ⟨(h.uncommitted (.inr (Database.held_of_known known ▸ live))).1, ?_⟩
  have next := h.effect (h.backed.effect (.setFaults .none))
  have knownThen : (run.step (.setFaults .none)).db.entries[ref]? = some ⟨tx, handles'⟩ := known
  have heldThen : (run.step (.setFaults .none)).db.isHeld ref = true :=
    Database.isHeld_iff.mpr (Nat.lt_of_lt_of_eq handles (Database.handles_of_known knownThen).symm)
  let exits := List.replicate (tx.depth + 1) ExitAction.commit
  have well : ExitAction.ending exits (tx.status :: tx.outer) = .commit := by
    cases ends : ExitAction.ending exits (tx.status :: tx.outer) with
    | commit => rfl
    | rollback =>
      obtain ⟨status, mem, _⟩ := ExitAction.ending_eq_rollback_iff.mp ends
      cases List.eq_of_mem_replicate (List.of_mem_zip mem).1
  obtain ⟨tx', db', did, known', _, standing, _⟩ :=
    Database.exits_open knownThen sound carries (h.backed.holds_root known carrier carries) (by simpa using isOpen)
      ⟨rfl, rfl⟩ (List.length_replicate : exits.length = tx.depth + 1)
  rw [well] at standing
  have ended := db_exits heldThen exits
  rw [did, List.map_replicate] at ended
  replace ended : _ = db' := ended
  rw [← ended] at known'
  exact (((next.steps _).recorded_root known').committed true false
    (congrArg Database.Standing.flags standing)).mp rfl

theorem exists_commitsBy_iff (h : run.Consistent before) (known : run.db.entries[ref]? = some entry)
    (handles : 0 < entry.handles) (sound : entry.transaction.Sound) :
    (∃ later, run.CommitsBy ref later) ↔ isLive entry.transaction.carrier = true := by
  constructor
  · rintro ⟨later, uncommitted, committed⟩
    cases spent : isLive entry.transaction.carrier with
    | true => rfl
    | false =>
      rw [h.spent_steps known (Database.held_of_known known ▸ spent) later .committed] at committed
      exact absurd committed uncommitted
  · intro live
    exact ⟨_, h.commitsBy_of_live known handles sound live⟩

theorem journal_of_commitsBy (h : run.Consistent before)
    (known : run.db.entries[ref]? = some entry) {later : List Action}
    (commits : run.CommitsBy ref later) : ∃ between rest,
      (run.steps later).db.backend.server.journal = run.db.backend.server.journal ++ between ++
        statements (.root ref) run.history ++ rest := by
  obtain ⟨uncommitted, committed⟩ := commits
  obtain ⟨after, past, split⟩ := List.append_of_mem committed
  obtain ⟨_, same, rest, journal⟩ := (h.steps later).committed_once split
  obtain ⟨waited, grown⟩ := h.statements_steps known later
  obtain ⟨new, old⟩ : run.history <:+ past := by
    have suffix := split ▸ run.history_suffix later
    rcases List.suffix_or_suffix_of_suffix suffix (List.suffix_append _ _) with early | late
    · rcases List.suffix_cons_iff.mp early with here | old
      · exact absurd (here ▸ List.mem_cons_self) uncommitted
      · exact old
    · exact absurd (late.mem List.mem_cons_self) uncommitted
  obtain ⟨between, published⟩ := exists_published_append new run.history
  refine ⟨between, waited ++ rest, ?_⟩
  rw [journal, ← same, ← grown, ← old, published, h.journal]
  simp only [List.append_assoc]

end Consistent

end Run

end NestedTx
