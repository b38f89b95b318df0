import NestedTx.Proofs.Database.Effect

namespace NestedTx

open Database (Standing Apart Moved Born TakenUp)
open History

structure History.Recorded (history : List Event) (holder : Holder) (standing : Standing) : Prop where
  holds : ∀ tx, standing.carrier = some tx → tx.Holds (statements holder history)
  unended : isLive standing.carrier = true → ∀ mark ∈ marks holder history, mark.isEnd = false
  committed : ∀ committed rolledBack, standing.flags = some (committed, rolledBack) →
    (committed = true ↔ .marked holder .committed ∈ history)
  rolledBack : ∀ committed rolledBack, standing.flags = some (committed, rolledBack) →
    rolledBack = true → .marked holder .undone ∈ history

structure History.Unknown (history : List Event) (holder : Holder) : Prop where
  marks_eq : marks holder history = []
  unmarked : ∀ mark, .marked holder mark ∉ history

structure Run.Consistent (before : List String) (run : Run) : Prop where
  tidy : run.db.Tidy
  journal : run.db.backend.server.journal = before ++ published run.history
  orderly : Orderly run.history
  recorded : ∀ holder standing, run.db.standing holder = some standing →
    Recorded run.history holder standing
  unknown : ∀ holder, run.db.standing holder = none → Unknown run.history holder

namespace History

variable {history history' : List Event} {holder other : Holder} {standing : Standing}

structure Same (holder : Holder) (history history' : List Event) : Prop where
  marks_eq : marks holder history' = marks holder history
  mem_iff : ∀ mark, .marked holder mark ∈ history' ↔ .marked holder mark ∈ history

theorem Same.recorded (same : Same holder history history') (h : Recorded history holder standing) :
    Recorded history' holder standing where
  holds := by simpa only [statements, same.marks_eq] using h.holds
  unended := by simpa only [same.marks_eq] using h.unended
  committed := by simpa only [same.mem_iff] using h.committed
  rolledBack := by simpa only [same.mem_iff] using h.rolledBack

theorem recorded_empty : Recorded history holder ⟨none, none⟩ where
  holds tx he := by cases he
  unended live := by cases live
  committed committed rolledBack hf := by cases hf
  rolledBack committed rolledBack hf := by cases hf

theorem Same.unknown (same : Same holder history history') (h : Unknown history holder) :
    Unknown history' holder where
  marks_eq := same.marks_eq.trans h.marks_eq
  unmarked mark := by rw [same.mem_iff]; exact h.unmarked mark

theorem same_alone (sql : String) : Same holder history (.alone sql :: history) :=
  ⟨rfl, by simp⟩

theorem same_mark? (ne : other ≠ holder) (mark : Option Mark) :
    Same other history (mark? holder mark history) := by
  cases mark with
  | none => exact ⟨rfl, fun _ => .rfl⟩
  | some mark => exact ⟨by simp [mark?, marks, ne.symm], by simp [mark?, ne]⟩

theorem Recorded.mark? {backend backend' : Backend} {mark : Option Mark} {old new : Standing}
    (recorded : Recorded history holder old)
    (served : Served (statements holder history) old.carrier backend mark new.carrier backend')
    (follows : old.Follows mark new) : Recorded (mark? holder mark history) holder new where
  holds := by simpa only [statements_mark?] using served.holds
  unended live done hd := by
    rw [marks_mark?] at hd
    rcases List.mem_append.mp hd with hd | hd
    · cases hend : done.isEnd with
      | false => rfl
      | true => simp [served.ended done (Option.mem_toList.mp hd) hend] at live
    · exact recorded.unended (served.live live) done hd
  committed committed rolledBack hf := by
    obtain ⟨_, _, hold, hc, _⟩ := follows _ _ hf
    rw [hc, recorded.committed _ _ hold, mem_mark?, or_comm]
  rolledBack committed rolledBack hf hr := by
    obtain ⟨_, _, hold, _, hb⟩ := follows _ _ hf
    exact mem_mark?.mpr ((hb hr).symm.imp_right (recorded.rolledBack _ _ hold))

theorem same_takenUp {ref root : Nat} (ne : holder ≠ .root root) :
    Same holder history (.takenUp ref root :: history) :=
  ⟨by simp [marks, ne], by simp⟩

end History

namespace Run

theorem start_consistent (server : Server) (settings : Settings) :
    Consistent server.journal (start server settings) where
  tidy := ⟨nofun, by simp [start, Database.on, Database.connection?]⟩
  journal := by simp [start, Database.on, published]
  orderly := .nil
  recorded holder standing he := by cases holder <;> simp [start, Database.on, Database.standing] at he
  unknown _ _ := ⟨rfl, nofun⟩

namespace Consistent

variable {before : List String} {run : Run} {db' : Database}

theorem apart (h : run.Consistent before) (apart : Apart [] run.db db') :
    Consistent before ⟨run.history, db'⟩ where
  tidy := apart.tidy
  journal := by rw [apart.journal, h.journal, List.append_nil]
  orderly := h.orderly
  recorded holder standing he := h.recorded holder standing (apart.standing holder ▸ he)
  unknown holder he := h.unknown holder (apart.standing holder ▸ he)

theorem alone (h : run.Consistent before) {sql : String} (apart : Apart [sql] run.db db') :
    Consistent before ⟨.alone sql :: run.history, db'⟩ where
  tidy := apart.tidy
  journal := by rw [apart.journal, h.journal, published, List.append_assoc]
  orderly := .alone h.orderly
  recorded holder standing he :=
    (same_alone sql).recorded (h.recorded holder standing (apart.standing holder ▸ he))
  unknown holder he := (same_alone sql).unknown (h.unknown holder (apart.standing holder ▸ he))

theorem born (h : run.Consistent before) {holder : Holder} (born : Born holder run.db db') :
    Consistent before ⟨run.history, db'⟩ where
  tidy := born.tidy
  journal := by rw [born.journal, h.journal]
  orderly := h.orderly
  recorded other standing he := by
    by_cases hne : other = holder
    · subst other
      obtain ⟨hnone, hno⟩ := h.unknown holder born.fresh
      obtain ⟨_, hnew, holds, flags⟩ := born.empty
      cases hnew.symm.trans he
      refine ⟨?_, ?_, ?_, ?_⟩
      · simpa only [statements, hnone, Mark.texts] using holds
      · simp [hnone]
      · intro committed rolledBack hf
        cases flags _ hf
        simp [hno]
      · intro committed rolledBack hf hr
        cases flags _ hf
        cases hr
    · exact h.recorded other standing (born.others other hne ▸ he)
  unknown other he := by
    by_cases hne : other = holder
    · exact hne ▸ h.unknown holder born.fresh
    · exact h.unknown other (born.others other hne ▸ he)

theorem takenUp (h : run.Consistent before) {ref root : Nat} (takenUp : TakenUp ref root run.db db') :
    Consistent before ⟨.takenUp ref root :: run.history, db'⟩ := by
  obtain ⟨hnone, hno⟩ := h.unknown _ takenUp.fresh
  obtain ⟨old, hold, hnew⟩ := takenUp.passed
  refine ⟨takenUp.tidy, by rw [takenUp.journal, h.journal, published], .takenUp h.orderly hnone, ?_, ?_⟩
  · intro other standing he
    by_cases hr : other = .root root
    · subst other
      cases hnew.symm.trans he
      have hm : marks (.root root) (.takenUp ref root :: run.history) =
          marks (.handOpened ref) run.history := by simp [marks]
      have recorded := h.recorded _ old hold
      refine ⟨?_, ?_, ?_, ?_⟩
      · simpa only [statements, hm] using recorded.holds
      · simpa only [hm] using recorded.unended
      · rintro committed rolledBack ⟨⟩
        simp [hno]
      · intro committed rolledBack hf hr
        cases hf
        cases hr
    · apply (same_takenUp hr).recorded
      by_cases hh : other = .handOpened ref
      · subst other
        cases takenUp.emptied.symm.trans he
        exact recorded_empty
      · exact h.recorded other standing (takenUp.others other hh hr ▸ he)
  · intro other he
    by_cases hr : other = .root root
    · subst other
      cases hnew.symm.trans he
    · apply (same_takenUp hr).unknown
      by_cases hh : other = .handOpened ref
      · subst other
        cases takenUp.emptied.symm.trans he
      · exact h.unknown other (takenUp.others other hh hr ▸ he)

theorem moved (h : run.Consistent before) {holder : Holder} {mark : Option Mark}
    {old new : Standing}
    (moved : Moved (statements holder run.history) holder mark run.db db' old new) :
    Consistent before ⟨mark? holder mark run.history, db'⟩ := by
  have recorded := h.recorded holder old moved.standing_old
  have served := moved.served
  refine ⟨moved.tidy, ?_, ?_, ?_, ?_⟩
  · rw [served.journal, h.journal, published_mark?, List.append_assoc]
  · cases mark with
    | none => exact h.orderly
    | some mark => exact .marked h.orderly (recorded.unended (served.acted mark rfl))
  · intro other standing he
    by_cases hne : other = holder
    · subst other
      cases moved.standing_new.symm.trans he
      exact recorded.mark? served moved.follows
    · exact (same_mark? hne mark).recorded (h.recorded other standing (moved.others other hne ▸ he))
  · intro other he
    by_cases hne : other = holder
    · subst other
      cases moved.standing_new.symm.trans he
    · exact (same_mark? hne mark).unknown (h.unknown other (moved.others other hne ▸ he))

theorem recorded_root (h : run.Consistent before) {ref : Nat} {entry : Entry}
    (known : run.db.entries[ref]? = some entry) :
    Recorded run.history (.root ref) entry.transaction.standing :=
  h.recorded _ _ (Database.standing_of_known known)

theorem backed (h : run.Consistent before) : run.Backed :=
  ⟨h.tidy, fun holder standing he => (h.recorded holder standing he).holds⟩

theorem effect (h : run.Consistent before) {run' : Run} (effect : Effect run run') :
    run'.Consistent before := by
  cases effect with
  | apart apart => exact h.apart apart
  | alone apart => exact h.alone apart
  | born born => exact h.born born
  | takenUp takenUp => exact h.takenUp takenUp
  | moved moved => exact h.moved moved

protected theorem steps (h : run.Consistent before) (actions : List Action) :
    (run.steps actions).Consistent before := by
  induction actions generalizing run with
  | nil => exact h
  | cons action actions ih => exact ih (h.effect (h.backed.effect action))

theorem committed_once (h : run.Consistent before) {holder : Holder} {past later : List Event}
    (split : run.history = later ++ .marked holder .committed :: past) :
    .marked holder .committed ∉ later ++ past ∧
      statements holder run.history = statements holder past ∧
      ∃ rest, run.db.backend.server.journal =
        before ++ published past ++ statements holder past ++ rest := by
  have orderly := split ▸ h.orderly
  refine ⟨orderly.unmarked_of_end rfl rfl, ?_, ?_⟩
  · rw [split, statements, orderly.marks_of_end rfl]
    rfl
  · obtain ⟨rest, hrest⟩ := exists_published_append later (.marked holder .committed :: past)
    refine ⟨rest, ?_⟩
    rw [h.journal, split, hrest, published]
    simp only [Mark.publish, List.append_assoc]

theorem uncommitted (h : run.Consistent before) {holder : Holder}
    (lost : .marked holder .undone ∈ run.history ∨ isLive (run.db.held holder) = true) :
    .marked holder .committed ∉ run.history ∧
      ((∀ ref root, holder = .handOpened ref → .takenUp ref root ∉ run.history) →
        published (without holder run.history) = published run.history) := by
  have hno : .marked holder .committed ∉ run.history := by
    intro committed
    rcases lost with undone | live
    · obtain ⟨later, past, split⟩ := List.append_of_mem undone
      have orderly := split ▸ h.orderly
      have hmem : .marked holder .committed ∈ later ++ past := by simpa [split] using committed
      exact orderly.unmarked_of_end rfl rfl hmem
    · have hmem := h.orderly.mem_marks_of_end rfl committed
      cases hs : run.db.standing holder with
      | none => simp [Database.held, hs, isLive] at live
      | some standing =>
        have hlive : isLive standing.carrier = true := by simpa [Database.held, hs] using live
        cases (h.recorded holder standing hs).unended hlive _ hmem
  exact ⟨hno, fun kept => published_without hno kept⟩

end Consistent

/-- After every run the journal holds exactly what the history says: the statements run alone and, at
each commit, those of the transaction. A commit publishes the statements of its transaction once and
together; a transaction that was rolled back, or let go of while open, or that is still open, has no
part in the journal. -/
theorem journal_of_steps (server : Server) (settings : Settings) (actions : List Action) :
    let run := (start server settings).steps actions
    run.db.backend.server.journal = server.journal ++ published run.history ∧
      (∀ holder past later, run.history = later ++ .marked holder .committed :: past →
        .marked holder .committed ∉ later ++ past ∧
          statements holder run.history = statements holder past ∧
          ∃ rest, run.db.backend.server.journal =
            server.journal ++ published past ++ statements holder past ++ rest) ∧
      (∀ holder, .marked holder .undone ∈ run.history ∨ isLive (run.db.held holder) = true →
        .marked holder .committed ∉ run.history ∧
          ((∀ ref root, holder = .handOpened ref → .takenUp ref root ∉ run.history) →
            published (without holder run.history) = published run.history)) ∧
      ∀ ref entry, run.db.entries[ref]? = some entry →
        (entry.transaction.carrierCommitted = true ↔ .marked (.root ref) .committed ∈ run.history) ∧
          (entry.transaction.rolledBack = true → .marked (.root ref) .undone ∈ run.history) := by
  have h := (start_consistent server settings).steps actions
  refine ⟨h.journal, fun _ _ _ => h.committed_once, fun _ => h.uncommitted, fun ref entry known => ?_⟩
  have recorded := h.recorded_root known
  exact ⟨recorded.committed _ _ rfl, recorded.rolledBack _ _ rfl⟩

end Run

end NestedTx
