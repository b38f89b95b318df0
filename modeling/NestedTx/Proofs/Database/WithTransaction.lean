import NestedTx.Database.Scope
import NestedTx.Proofs.Database.Roots

namespace NestedTx

open History

namespace Transaction

variable {tx tx' : Transaction} {backend backend' : Backend} {texts : List String}

theorem exit_commit (sound : tx.Sound) (keepsOpen : tx.KeepsOpen)
    (holds : ∀ carrier, tx.carrier = some carrier → carrier.Holds texts)
    (obliging : backend.server.Obliging) {answer : Except TransactionError Unit}
    (step : Step tx backend (.exit .commit) answer tx' backend') :
    answer = .ok () ∧ tx'.rolledBack = tx.rolledBack ∧
      (tx'.carrier = none ↔ tx.carrier = none ∨ tx.outer = []) := by
  cases step with
  | lateForAll late asks => simp at asks
  | lateForLevel whole late asks => simp at asks
  | barred bar asks => simp at asks
  | closed none asks => simp at asks
  | left decided =>
    refine ⟨rfl, pop_rolledBack tx, ?_⟩
    rw [pop_carrier]
    refine ⟨.inl, ?_⟩
    rintro (none | root)
    · exact none
    · apply sound.carrier_eq_none.mpr
      rcases decided with rolledBack | committed | ⟨_, rolledBack | nested⟩
      · exact .inr rolledBack
      · exact .inl (sound.carrierCommitted_iff.mpr ⟨root, committed⟩)
      · exact .inr (sound.rolledBack_of_status rolledBack)
      · exact absurd root nested
  | leaving whole uncommitted root attempt =>
    have hroot := (root rfl).2
    cases attempt with
    | missing none =>
      obtain ⟨carrier, some⟩ := sound.exists_carrier whole (sound.carrierCommitted_eq_false uncommitted)
      simp [none] at some
    | @refused carrier _ _ _ some finish =>
      rcases (holds carrier some).finish_cases .commit backend with
        ⟨_, _, _, _, _, _, done⟩ | ⟨_, he, _⟩
      · have hopen := keepsOpen carrier some
        simp [done obliging] at hopen
      · cases he.symm.trans finish
    | done some finish =>
      refine ⟨rfl, ?_, ?_⟩
      · rw [pop_rolledBack]
        rfl
      · simp [hroot]

end Transaction

namespace Run

def Committed (ref : Nat) (run : Run) : Prop :=
  .marked (.root ref) .committed ∈ run.history ∧ ∃ earlier later,
    run.db.backend.server.journal = earlier ++ statements (.root ref) run.history ++ later

theorem Consistent.committed {before : List String} {run : Run} (h : run.Consistent before) {ref : Nat}
    (mem : .marked (.root ref) .committed ∈ run.history) : run.Committed ref := by
  obtain ⟨later, past, split⟩ := List.append_of_mem mem
  obtain ⟨_, same, rest, journal⟩ := h.committed_once split
  refine ⟨mem, before ++ published past, rest, ?_⟩
  rw [same, journal]

def leave (ref : Nat) : List Action := [.call ref (.exit .commit) [], .drop ref]

theorem history_leave (run : Run) (ref : Nat) :
    (run.steps (leave ref)).history =
      (Action.loss? (.root ref) (run.step (.call ref (.exit .commit) [])).db
        (run.steps (leave ref)).db).toList ++ (run.step (.call ref (.exit .commit) [])).history := rfl

theorem mem_history_leave {run : Run} {ref : Nat} :
    .marked (.root ref) .committed ∈ (run.steps (leave ref)).history ↔
      .marked (.root ref) .committed ∈ (run.step (.call ref (.exit .commit) [])).history := by
  rw [history_leave, List.mem_append, Action.loss?]
  split <;> simp

theorem db_call {run : Run} {ref : Nat} (held : run.db.isHeld ref = true) (call : Transaction.Call)
    (params : List Json.Value) :
    (run.step (.call ref call params)).db = (run.db.perform call params ref).2 := by
  simp only [step, Action.perform, held, if_true, Database.tell]

theorem db_drop (run : Run) (ref : Nat) : (run.step (.drop ref)).db = run.db.drop ref := rfl

theorem Consistent.begun {before : List String} {run : Run} (h : run.Consistent before) {ref : Nat}
    (begun : run.db.begin.1 = .ok ref) :
    run.db.begin = (.ok ref, (run.step .begin).db) ∧
      ∃ entry, (run.step .begin).db.entries[ref]? = some entry ∧ entry.transaction.KeepsOpen := by
  rcases Database.begin_cases h.tidy with ⟨error, db', he, _⟩ | ⟨id, carrier, db', he, live, entries, _⟩
  · rw [he] at begun
    cases begun
  · rw [he] at begun
    cases begun
    have hdb : (run.step .begin).db = db' := by simp only [step, Action.perform, he, Database.tell]
    rw [hdb]
    refine ⟨he, ⟨.root id carrier run.db.settings.forTransactions, 1⟩, by simp [entries], ?_⟩
    rintro _ ⟨⟩
    exact live

section Leave

variable {before : List String} {run : Run} {ref : Nat} {entry : Entry}

theorem undone_of_last {tx : Transaction} {carrier : ServerTransaction}
    (known : run.db.entries[ref]? = some ⟨tx, 1⟩) (some : tx.carrier = some carrier)
    (live : carrier.done = false) : Action.loss? (.root ref) run.db (run.db.drop ref) =
      .some (.marked (.root ref) .undone) := by
  have hbefore : run.db.held (.root ref) = .some carrier := by
    rw [Database.held_of_known known, some]
  have hafter : (run.db.drop ref).held (.root ref) = none := by
    have hdropped : (run.db.drop ref).entries =
        run.db.entries.set ref ⟨(tx.abandon run.db.backend).1, 0⟩ := by
      simp only [Database.drop, known]
    simp only [Database.held, Database.standing_root known hdropped, Option.bind_some,
      Transaction.standing, Transaction.abandon, some, Transaction.letGo]
  simp [Action.loss?, hbefore, hafter, isLive, live]

structure Ready (before : List String) (run : Run) (ref : Nat) (entry : Entry) : Prop where
  consistent : run.Consistent before
  known : run.db.entries[ref]? = some entry
  held : 0 < entry.handles
  sound : entry.transaction.Sound
  keepsOpen : entry.transaction.KeepsOpen
  obliging : run.db.backend.server.Obliging

namespace Ready

theorem isHeld (h : Ready before run ref entry) : run.db.isHeld ref = true := by
  simp [Database.isHeld, h.known, h.held]

theorem left (h : Ready before run ref entry) :
    (run.db.exit .commit ref).1 = .ok () ∧ ∃ tx',
      (run.step (.call ref (.exit .commit) [])).db.entries[ref]? = some ⟨tx', entry.handles⟩ ∧
        tx'.Sound ∧ tx'.KeepsOpen ∧ tx'.rolledBack = entry.transaction.rolledBack ∧
        (tx'.carrier = none ↔ entry.transaction.carrier = none ∨ entry.transaction.outer = []) ∧
        (.marked (.root ref) .committed ∈ (run.steps (leave ref)).history ↔
          tx'.carrierCommitted = true) := by
  have step := entry.transaction.perform_step run.db.backend (.exit .commit)
  obtain ⟨answer, rolledBack, carrier⟩ := Transaction.exit_commit h.sound h.keepsOpen
    (h.consistent.backed.holds_root h.known) h.obliging step
  obtain ⟨alarms, he⟩ := Database.perform_eq h.known (.exit .commit) []
  obtain ⟨hlt, _⟩ := List.getElem?_eq_some_iff.mp h.known
  have hexit : run.db.exit .commit ref = run.db.perform (.exit .commit) [] ref := rfl
  have knownLeft : (run.step (.call ref (.exit .commit) [])).db.entries[ref]? = some
      ⟨(Transaction.Call.perform (.exit .commit) entry.transaction run.db.backend).2.1,
        entry.handles⟩ := by
    rw [db_call h.isHeld, he]
    simp [hlt, Transaction.Call.handles]
  have hleft :=
    h.consistent.effect (h.consistent.backed.effect (.call ref (.exit .commit) []))
  have recorded := hleft.recorded_root knownLeft
  refine ⟨by rw [hexit, he]; exact answer, _, knownLeft, h.sound.step step, h.keepsOpen.step step,
    rolledBack, carrier, ?_⟩
  rw [mem_history_leave, recorded.committed _ _ rfl]

theorem ended_iff (h : Ready before run ref entry) :
    (run.steps (leave ref)).Committed ref ∨ .marked (.root ref) .undone ∈ run.history ↔
      entry.transaction.carrier = none ∨ entry.transaction.outer = [] := by
  obtain ⟨_, tx', _, sound, _, rolledBack, carrier, committed⟩ := h.left
  have recorded := h.consistent.recorded_root h.known
  rw [← carrier, sound.carrier_eq_none, ← committed, rolledBack]
  constructor
  · rintro (ended | undone)
    · exact .inl ended.1
    · cases hc : entry.transaction.carrier with
      | none =>
        rw [committed, ← rolledBack, ← sound.carrier_eq_none]
        exact carrier.mpr (.inl hc)
      | some found =>
        have live : isLive entry.transaction.carrier = true := by
          simp [isLive, hc, h.keepsOpen found hc]
        have ended := h.consistent.orderly.mem_marks_of_end rfl undone
        cases recorded.unended live _ ended
  · rintro (mem | whole)
    · exact .inl ((h.consistent.steps (leave ref)).committed mem)
    · exact .inr (recorded.rolledBack _ _ rfl whole)

theorem lost (h : Ready before run ref entry) (unfinished : entry.transaction.carrier ≠ none)
    (nested : entry.transaction.outer ≠ []) :
    .marked (.root ref) .committed ∉ (run.steps (leave ref)).history ∧
      (entry.handles = 1 → .marked (.root ref) .undone ∈ (run.steps (leave ref)).history) := by
  obtain ⟨_, tx', known, sound, keepsOpen, _, carrier, committed⟩ := h.left
  have hsome : tx'.carrier ≠ none := by
    rw [Ne, carrier, not_or]
    exact ⟨unfinished, nested⟩
  refine ⟨fun mem => hsome (sound.carrier_eq_none.mpr (.inl (committed.mp mem))), fun last => ?_⟩
  obtain ⟨found, hfound⟩ := Option.ne_none_iff_exists'.mp hsome
  rw [last] at known
  have lost : Action.loss? _ _ (run.steps (leave ref)).db = _ :=
    undone_of_last known hfound (keepsOpen found hfound)
  rw [history_leave, lost]
  exact List.mem_cons_self

theorem withTransaction_eq {db : Database} (h : Ready before run ref entry) {ε α : Type}
    (ofError : TransactionError → ε) {block : Nat → Database → Ending ε α × Database} {value : α}
    {begun : Database} (hbegin : db.begin = (.ok ref, begun))
    (ends : block ref begun = (.ok value, run.db)) :
    db.withTransaction ofError block = (.ok value, (run.steps (leave ref)).db) := by
  have hdb : (run.db.exit .commit ref).2.drop ref = (run.steps (leave ref)).db := by
    have hcall := db_call h.isHeld (.exit .commit) []
    rw [Database.perform] at hcall
    rw [← hcall]
    rfl
  rw [← hdb]
  simp only [Database.withTransaction, Database.enter, hbegin, Database.runIn, ends, Scope.close,
    Scope.finishAs]
  have left := h.left.1
  rcases hexit : run.db.exit .commit ref with ⟨answer, db'⟩
  rw [hexit] at left
  cases left
  rfl

end Ready

end Leave

def openLevel (ref : Nat) (db : Database) : Ending Unit Unit × Database :=
  match db.beginNested ref with
  | (_, db) =>
    match db.execute (.transaction ref) "DELETE FROM t" [] with
    | (_, db) => (.ok (), db.drop ref)

def openLevelActions (ref : Nat) : List Action :=
  [.call ref .begin [], .call ref (.execute "DELETE FROM t") [], .drop ref]

theorem openLevel_eq {run : Run} {ref : Nat} (held : run.db.isHeld ref = true)
    (heldThen : (run.step (.call ref .begin [])).db.isHeld ref = true) :
    openLevel ref run.db = (.ok (), (run.steps (openLevelActions ref)).db) := by
  have hbegin := db_call held .begin []
  have hexecute := db_call heldThen (.execute "DELETE FROM t") []
  rw [Database.perform_execute_db, hbegin] at hexecute
  simp only [openLevelActions, steps, List.foldl_cons, List.foldl_nil, db_drop, hexecute]
  simp only [openLevel, Database.perform]

/-- A block that ends well makes the answer, if the server obliges then. Its transaction is ended, and
not just dropped, exactly if the block had ended it or had left all nested levels. -/
theorem withTransaction_ok (server : Server) (settings : Settings) (before actions : List Action)
    {run closed : Run} (reached : (start server settings).steps before = run)
    (ran : (run.step .begin).steps actions = closed) {ref : Nat} {ε α : Type}
    (ofError : TransactionError → ε) (block : Nat → Database → Ending ε α × Database) (value : α)
    (begun : run.db.begin.1 = .ok ref)
    (ends : block ref (run.step .begin).db = (.ok value, closed.db))
    (held : closed.db.isHeld ref = true) (obliging : closed.db.backend.server.Obliging) :
    run.db.withTransaction ofError block = (.ok value, (closed.steps (leave ref)).db) ∧
      ((closed.steps (leave ref)).Committed ref ∨ .marked (.root ref) .undone ∈ closed.history ↔
        (closed.db.transaction ref).isFinalized = true ∨ (closed.db.transaction ref).depth = 0) ∧
      ((closed.db.transaction ref).isFinalized = false → (closed.db.transaction ref).depth ≠ 0 →
        .marked (.root ref) .committed ∉ (closed.steps (leave ref)).history ∧
          ∀ entry, closed.db.entries[ref]? = some entry → entry.handles = 1 →
            .marked (.root ref) .undone ∈ (closed.steps (leave ref)).history) := by
  subst reached
  have h := (start_consistent server settings).steps before
  obtain ⟨hbegin, begunEntry, begunKnown, begunOpen⟩ := h.begun begun
  have hopened := h.effect (h.backed.effect .begin)
  obtain ⟨entry, known, keepsOpen⟩ := hopened.keepsOpen_steps begunKnown begunOpen actions
  have consistent := hopened.steps actions
  rw [ran] at known consistent
  have hsteps : (start server settings).steps (before ++ Action.begin :: actions) = closed := by
    rw [steps_append]
    exact ran
  have sound := hsteps ▸ start_sound server settings (before ++ Action.begin :: actions)
  obtain ⟨_, known', handles⟩ := Database.exists_of_isHeld held
  cases known.symm.trans known'
  have ready : Ready server.journal closed ref entry := ⟨consistent, known, handles,
    sound entry (List.mem_of_getElem? known) handles, keepsOpen, obliging⟩
  rw [Database.transaction_of_known known, Transaction.isFinalized, Option.isNone_iff_eq_none,
    Transaction.depth, List.length_eq_zero_iff]
  refine ⟨ready.withTransaction_eq ofError hbegin ends, ready.ended_iff, fun unfinished nested => ?_⟩
  obtain ⟨uncommitted, undone⟩ :=
    ready.lost (by simpa [Option.isSome_iff_ne_none] using unfinished) (by simpa using nested)
  refine ⟨uncommitted, fun other knownOther last => ?_⟩
  cases known.symm.trans knownOther
  exact undone last

theorem withTransaction_openLevel :
    let run := start .empty .standard
    let closed := (run.step .begin).steps (openLevelActions 0)
    closed.db.isHeld 0 = true ∧ closed.db.backend.server.Obliging ∧
      run.db.withTransaction (fun _ => ()) openLevel = (.ok (), (closed.steps (leave 0)).db) ∧
      .marked (.root 0) .committed ∉ (closed.steps (leave 0)).history := by
  intro run closed
  have reached : (start .empty .standard).steps [] = run := rfl
  have begun : run.db.begin.1 = .ok 0 := by rfl
  have ran : (run.step .begin).steps (openLevelActions 0) = closed := rfl
  have ends : openLevel 0 (run.step .begin).db = (.ok (), closed.db) :=
    openLevel_eq (by decide +kernel) (by decide +kernel)
  have held : closed.db.isHeld 0 = true := by decide +kernel
  have obliging : closed.db.backend.server.Obliging := ⟨by decide +kernel, by decide +kernel⟩
  obtain ⟨answer, _, lost⟩ := withTransaction_ok .empty .standard [] (openLevelActions 0) reached ran
    (fun _ => ()) openLevel () begun ends held obliging
  exact ⟨held, obliging, answer, (lost (by decide +kernel) (by decide +kernel)).1⟩

theorem openLevel_lost :
    let db := Database.on .empty .standard
    (openLevel 0 db.begin.2).2.backend.server.counters.rollbacks = 0 ∧
      ((db.withTransaction (fun _ => ()) openLevel).1 matches .ok _) = true ∧
      (db.withTransaction (fun _ => ()) openLevel).2.backend.server.faults = .none ∧
      (db.withTransaction (fun _ => ()) openLevel).2.backend.server.counters.executes = 1 ∧
      (db.withTransaction (fun _ => ()) openLevel).2.backend.server.counters.commits = 0 ∧
      (db.withTransaction (fun _ => ()) openLevel).2.backend.server.counters.rollbacks = 1 ∧
      (db.withTransaction (fun _ => ()) openLevel).2.backend.server.journal = [] := by
  decide +kernel

end Run

end NestedTx
