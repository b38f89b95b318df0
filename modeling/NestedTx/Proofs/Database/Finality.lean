import NestedTx.Proofs.Database.Roots
import NestedTx.Proofs.Database.Untouched
import NestedTx.Proofs.Transaction.Finality

namespace NestedTx

open Server (Change)

structure Entry.Counted (commits rollbacks : Nat) (entry : Entry) : Prop where
  flags : 0 < entry.handles → commits = entry.transaction.carrierCommitted.toNat ∧
    rollbacks = entry.transaction.rolledBack.toNat
  once : commits + rollbacks ≤ 1
  spent : 0 < commits + rollbacks → entry.transaction.carrier = none

namespace Run

def ended (kind : ExitAction) (ref : Nat) (run : Run) (action : Action) : Nat :=
  if action.root? = some ref then
    run.db.backend.server.ended kind (run.step action).db.backend.server
  else 0

def ends (kind : ExitAction) (ref : Nat) : Run → List Action → Nat
  | _, [] => 0
  | run, action :: actions => run.ended kind ref action + ends kind ref (run.step action) actions

end Run

theorem Database.expire_known {db : Database} {ref : Nat} {entry : Entry}
    (known : db.entries[ref]? = some entry) (openFor : Nat) :
    (db.expire ref openFor).backend = db.backend ∧ (db.expire ref openFor).entries[ref]? =
      some (if entry.handles = 0 then entry else ⟨entry.transaction.expire, entry.handles⟩) := by
  have set : (db.setTransaction ref entry.transaction.expire).entries[ref]? =
      some ⟨entry.transaction.expire, entry.handles⟩ := by
    simp [setTransaction, known]
  simp only [expire, known]
  split
  · exact ⟨rfl, known⟩
  · split
    · exact ⟨rfl, set⟩
    · exact ⟨rfl, set⟩

theorem Backend.release_ended (connection : Connection) (backend : Backend) :
    backend.server.ended .commit (backend.release connection).server = 0 ∧
      backend.server.ended .rollback (backend.release connection).server ≤ 1 := by
  have bounds {server' : Server} {rollbacks : Nat} (most : rollbacks ≤ 1)
      (change : Change [] 0 rollbacks backend.server server') :
      backend.server.ended .commit server' = 0 ∧ backend.server.ended .rollback server' ≤ 1 := by
    simp only [Server.ended, change.commits, change.rollbacks]
    constructor
    · split <;> omega
    · split <;> omega
  rcases release_cases connection backend with
    ⟨server', rollbacks, most, change, he⟩ | ⟨server', _, _, change, he⟩
  · rw [he, giveBack_server]
    exact bounds most change
  · rw [he, discard_server]
    exact bounds (Nat.le_refl 1) change

namespace Entry

variable {entry entry' : Entry} {commits rollbacks : Nat} {db : Database} {ref : Nat}

theorem Counted.of_sound (sound : 0 < entry.handles → entry.transaction.Sound)
    (held : 0 < entry.handles) (hc : commits = entry.transaction.carrierCommitted.toNat)
    (hr : rollbacks = entry.transaction.rolledBack.toNat) : entry.Counted commits rollbacks where
  flags _ := ⟨hc, hr⟩
  once := by
    have both := (sound held).not_both
    cases h : entry.transaction.carrierCommitted <;> cases h' : entry.transaction.rolledBack <;>
      simp_all
  spent more := by
    apply (sound held).carrier_eq_none.mpr
    cases h : entry.transaction.carrierCommitted <;> cases h' : entry.transaction.rolledBack <;>
      simp_all

theorem Counted.call (h : entry.Counted commits rollbacks) (sound : entry.transaction.Sound)
    (held : 0 < entry.handles) {texts : List String}
    (holds : ∀ carrier, entry.transaction.carrier = some carrier → carrier.Holds texts)
    (call : Transaction.Call) (backend : Backend) (more : Nat) :
    Counted
      (commits + backend.server.ended .commit (call.perform entry.transaction backend).2.2.server)
      (rollbacks + backend.server.ended .rollback (call.perform entry.transaction backend).2.2.server)
      ⟨(call.perform entry.transaction backend).2.1, entry.handles + more⟩ := by
  have counts := (entry.transaction.perform_step backend call).counts sound holds
  obtain ⟨hc, hr⟩ := h.flags held
  apply Counted.of_sound
  · intro _
    exact sound.perform call backend
  · exact Nat.lt_of_lt_of_le held (Nat.le_add_right _ _)
  · rw [counts.commits, hc]
  · rw [counts.rollbacks, hr]

theorem Counted.abandon (h : entry.Counted commits rollbacks) (backend : Backend) :
    Counted
      (commits + backend.server.ended .commit (entry.transaction.abandon backend).2.server)
      (rollbacks + backend.server.ended .rollback (entry.transaction.abandon backend).2.server)
      ⟨(entry.transaction.abandon backend).1, 0⟩ := by
  unfold Transaction.abandon
  cases hs : entry.transaction.carrier with
  | none =>
    exact ⟨nofun, by simpa using h.once, fun _ => rfl⟩
  | some carrier =>
    have fresh : ¬0 < commits + rollbacks := fun more => by cases hs.symm.trans (h.spent more)
    obtain ⟨hc, hr⟩ := Backend.release_ended carrier.connection backend
    refine ⟨nofun, ?_, fun _ => rfl⟩
    simp only [Transaction.letGo]
    omega

theorem Counted.expire (h : entry.Counted commits rollbacks) :
    Counted commits rollbacks ⟨entry.transaction.expire, entry.handles⟩ := by
  have same := entry.transaction.standing_expire
  simp only [Transaction.standing, Database.Standing.mk.injEq, Option.some.injEq, Prod.mk.injEq] at same
  obtain ⟨carrier, committed, rolledBack⟩ := same
  exact ⟨by simpa only [committed, rolledBack] using h.flags, h.once,
    by simpa only [carrier] using h.spent⟩

end Entry

namespace Run

structure Counted (ref commits rollbacks : Nat) (before : List String) (run : Run) : Prop where
  consistent : run.Consistent before
  sound : ∀ entry ∈ run.db.entries, 0 < entry.handles → entry.transaction.Sound
  known : ∀ entry, run.db.entries[ref]? = some entry → entry.Counted commits rollbacks
  unknown : run.db.entries[ref]? = none → commits = 0 ∧ rollbacks = 0

namespace Counted

variable {ref commits rollbacks : Nat} {before : List String} {run : Run} {action : Action}

theorem start (server : Server) (settings : Settings) (ref : Nat) :
    Counted ref 0 0 server.journal (Run.start server settings) where
  consistent := start_consistent server settings
  sound := start_sound server settings []
  known _ known := by simp [Run.start, Database.on] at known
  unknown _ := ⟨rfl, rfl⟩

theorem sound_of_known (h : run.Counted ref commits rollbacks before) {entry : Entry}
    (known : run.db.entries[ref]? = some entry) (held : 0 < entry.handles) :
    entry.transaction.Sound :=
  h.sound entry (List.mem_of_getElem? known) held

theorem other (h : run.Counted ref commits rollbacks before) (ne : action.root? ≠ some ref) :
    ∀ entry, (run.step action).db.entries[ref]? = some entry → entry.Counted commits rollbacks := by
  intro entry known
  cases hk : run.db.entries[ref]? with
  | some old =>
    rw [db_step, Action.entries_other ne hk, Option.some.injEq] at known
    subst known
    exact h.known old hk
  | none =>
    obtain ⟨rfl, rfl⟩ := h.unknown hk
    have hle : run.db.entries.length ≤ ref := List.getElem?_eq_none_iff.mp hk
    cases about : action.root? with
    | none =>
      rcases Action.entries_of_rootless about run.db with same | ⟨id, carrier, settings, grown⟩
      · rw [db_step, same, hk] at known
        cases known
      · rw [db_step, grown, List.getElem?_append_right hle, List.getElem?_singleton] at known
        split at known <;> cases known
        exact Entry.Counted.of_sound (fun _ => Transaction.root_sound id carrier settings)
          Nat.one_pos rfl rfl
    | some other =>
      rcases Action.entries_of_root about run.db with same | ⟨entry', set⟩
      · rw [db_step, same, hk] at known
        cases known
      · rw [db_step, set, List.getElem?_eq_none (by simpa using hle)] at known
        cases known

theorem call (h : run.Counted ref commits rollbacks before) (held : run.db.isHeld ref = true)
    (call : Transaction.Call) (params : List Json.Value) :
    ∀ entry, (run.step (.call ref call params)).db.entries[ref]? = some entry →
      entry.Counted (commits + run.ended .commit ref (.call ref call params))
        (rollbacks + run.ended .rollback ref (.call ref call params)) := by
  obtain ⟨old, hk, handles⟩ := Database.exists_of_isHeld held
  obtain ⟨hlt, _⟩ := List.getElem?_eq_some_iff.mp hk
  obtain ⟨alarms, did⟩ := Database.perform_eq hk call params
  have called := (h.known old hk).call (h.sound_of_known hk handles) handles
    (h.consistent.backed.holds_root hk) call run.db.backend
    (call.handles (call.perform old.transaction run.db.backend).1)
  intro entry known
  simp only [ended, Action.root?, if_true, db_step, Action.perform, held, Database.tell, did] at known ⊢
  rw [List.getElem?_set_self hlt, Option.some.injEq] at known
  subst known
  exact called

theorem drop (h : run.Counted ref commits rollbacks before) :
    ∀ entry, (run.step (.drop ref)).db.entries[ref]? = some entry →
      entry.Counted (commits + run.ended .commit ref (.drop ref))
        (rollbacks + run.ended .rollback ref (.drop ref)) := by
  intro entry known
  simp only [ended, Action.root?, if_true, db_step, Action.perform, Database.drop] at known ⊢
  cases hk : run.db.entries[ref]? with
  | none => simp [hk] at known
  | some old =>
    obtain ⟨hlt, _⟩ := List.getElem?_eq_some_iff.mp hk
    have counted := h.known old hk
    simp only [hk] at known ⊢
    split at known
    · rw [hk, Option.some.injEq] at known
      subst known
      simpa using counted
    · rw [List.getElem?_set_self hlt, Option.some.injEq] at known
      subst known
      exact counted.abandon run.db.backend
    · rename_i handles more
      rw [List.getElem?_set_self hlt, Option.some.injEq] at known
      subst known
      simp only [Server.ended_self, Nat.add_zero]
      exact ⟨fun _ => counted.flags (by omega), counted.once, counted.spent⟩

theorem of_same (h : run.Counted ref commits rollbacks before)
    (same : (action.perform run.db).2 = run.db) :
    ∀ entry, (run.step action).db.entries[ref]? = some entry →
      entry.Counted (commits + run.ended .commit ref action)
        (rollbacks + run.ended .rollback ref action) := by
  intro entry known
  rw [db_step, same] at known
  have counted := h.known entry known
  simpa [ended, db_step, same] using counted

theorem about (h : run.Counted ref commits rollbacks before) (about : action.root? = some ref) :
    ∀ entry, (run.step action).db.entries[ref]? = some entry →
      entry.Counted (commits + run.ended .commit ref action)
        (rollbacks + run.ended .rollback ref action) := by
  cases action with
  | call ref' call params =>
    cases about
    cases held : run.db.isHeld ref with
    | true => exact h.call held call params
    | false => exact h.of_same (by simp [Action.perform, held])
  | retain ref' =>
    cases about
    cases held : run.db.isHeld ref with
    | true =>
      intro entry known
      obtain ⟨old, hk, handles⟩ := Database.exists_of_isHeld held
      have counted := h.known old hk
      simp only [db_step, Action.perform, held, if_true, Database.retain, List.getElem?_modify_eq, hk,
        Option.map_eq_map, Option.map_some, Option.some.injEq] at known
      subst known
      have idle (kind : ExitAction) : run.ended kind ref (.retain ref) = 0 := by
        simp [ended, db_step, Action.perform, held, Database.retain]
      rw [idle, idle]
      exact ⟨fun _ => counted.flags handles, counted.once, counted.spent⟩
    | false => exact h.of_same (by simp [Action.perform, held])
  | drop ref' =>
    cases about
    exact h.drop
  | expire ref' openFor =>
    cases about
    intro entry known
    cases hk : run.db.entries[ref]? with
    | none =>
      have same : (run.step (.expire ref openFor)).db = run.db := by
        simp only [db_step, Action.perform, Database.expire, hk]
      rw [same, hk] at known
      cases known
    | some old =>
      obtain ⟨backend, known'⟩ := Database.expire_known hk openFor
      have counted := h.known old hk
      have idle (kind : ExitAction) : run.ended kind ref (.expire ref openFor) = 0 := by
        simp [ended, db_step, Action.perform, backend]
      rw [idle, idle]
      rw [db_step, Action.perform, known', Option.some.injEq] at known
      subst known
      split
      · exact counted
      · exact counted.expire
  | _ => cases about

theorem step (h : run.Counted ref commits rollbacks before) (action : Action) :
    (run.step action).Counted ref (commits + run.ended .commit ref action)
      (rollbacks + run.ended .rollback ref action) before where
  consistent := h.consistent.effect (h.consistent.backed.effect action)
  sound := (h.consistent.backed.effect action).roots.sound h.sound
  known := by
    by_cases about : action.root? = some ref
    · exact h.about about
    · have idle (kind : ExitAction) : run.ended kind ref action = 0 := if_neg about
      rw [idle, idle]
      exact h.other about
  unknown none := by
    have unknown : run.db.entries[ref]? = .none :=
      List.getElem?_eq_none_iff.mpr
        (Nat.le_trans (Action.length_le action run.db) (List.getElem?_eq_none_iff.mp none))
    obtain ⟨rfl, rfl⟩ := h.unknown unknown
    have idle (kind : ExitAction) : run.ended kind ref action = 0 := by
      unfold ended
      split
      · rename_i about
        rw [db_step, Action.perform_of_unknown about unknown, Server.ended_self]
      · rfl
    rw [idle, idle]
    exact ⟨rfl, rfl⟩

theorem steps (h : run.Counted ref commits rollbacks before) (actions : List Action) :
    (run.steps actions).Counted ref (commits + run.ends .commit ref actions)
      (rollbacks + run.ends .rollback ref actions) before := by
  induction actions generalizing run commits rollbacks with
  | nil => exact h
  | cons action actions ih =>
    have rest := ih (h.step action)
    simp only [ends]
    rw [← Nat.add_assoc, ← Nat.add_assoc]
    exact rest

theorem after (h : run.Counted ref commits rollbacks before) (about : action.root? = some ref)
    {old : Entry} (known : run.db.entries[ref]? = some old) (spent : old.transaction.carrier = none) :
    ∃ entry, (run.step action).db.entries[ref]? = some entry ∧
      entry.transaction.standing = old.transaction.standing ∧
      (run.step action).db.backend = run.db.backend := by
  obtain ⟨hlt, _⟩ := List.getElem?_eq_some_iff.mp known
  have unchanged (same : (action.perform run.db).2 = run.db) :
      ∃ entry, (run.step action).db.entries[ref]? = some entry ∧
        entry.transaction.standing = old.transaction.standing ∧
        (run.step action).db.backend = run.db.backend :=
    ⟨old, by rw [db_step, same, known], rfl, by rw [db_step, same]⟩
  cases action with
  | call ref' call params =>
    cases about
    cases held : run.db.isHeld ref with
    | false => exact unchanged (by simp [Action.perform, held])
    | true =>
      obtain ⟨_, hk, handles⟩ := Database.exists_of_isHeld held
      cases known.symm.trans hk
      obtain ⟨backend, which⟩ := (h.sound_of_known known handles).idle_of_over spent
        (old.transaction.perform_step run.db.backend call)
      obtain ⟨alarms, did⟩ := Database.perform_eq known call params
      rw [db_step, Action.perform, if_pos held, Database.tell, did]
      refine ⟨_, List.getElem?_set_self hlt, ?_, backend⟩
      rcases which with same | ⟨popped, _⟩
      · simp only [same]
      · simp [popped, Transaction.standing]
  | retain ref' =>
    cases about
    cases held : run.db.isHeld ref with
    | false => exact unchanged (by simp [Action.perform, held])
    | true =>
      rw [db_step, Action.perform, if_pos held]
      exact ⟨⟨old.transaction, old.handles + 1⟩, by simp [Database.retain, known], rfl, rfl⟩
  | drop ref' =>
    cases about
    simp only [db_step, Action.perform, Database.drop, known]
    split
    · exact ⟨old, known, rfl, rfl⟩
    · refine ⟨_, List.getElem?_set_self hlt, ?_, ?_⟩
      · simp [Transaction.abandon, spent, Transaction.standing]
      · simp [Transaction.abandon, spent]
    · exact ⟨_, List.getElem?_set_self hlt, rfl, rfl⟩
  | expire ref' openFor =>
    cases about
    obtain ⟨backend, known'⟩ := Database.expire_known known openFor
    refine ⟨_, known', ?_, backend⟩
    split
    · rfl
    · exact Transaction.standing_expire old.transaction
  | _ => cases about

theorem settled (h : run.Counted ref commits rollbacks before) (spent : 0 < commits + rollbacks)
    (action : Action) :
    (run.step action).db.standing (.root ref) = run.db.standing (.root ref) ∧
      (action.root? = some ref → (run.step action).db.backend = run.db.backend) := by
  cases hk : run.db.entries[ref]? with
  | none =>
    obtain ⟨rfl, rfl⟩ := h.unknown hk
    exact absurd spent (Nat.lt_irrefl 0)
  | some old =>
    have gone := (h.known old hk).spent spent
    have same {db' : Database} {entry : Entry} (known : db'.entries[ref]? = some entry)
        (standing : entry.transaction.standing = old.transaction.standing) :
        db'.standing (.root ref) = run.db.standing (.root ref) := by
      simp [Database.standing, known, hk, standing]
    by_cases about : action.root? = some ref
    · obtain ⟨entry, known, standing, backend⟩ := h.after about hk gone
      exact ⟨same known standing, fun _ => backend⟩
    · exact ⟨same (Action.entries_other about hk) rfl, fun about' => absurd about' about⟩

theorem settled_steps (h : run.Counted ref commits rollbacks before)
    (spent : 0 < commits + rollbacks) (later : List Action) :
    (run.steps later).db.standing (.root ref) = run.db.standing (.root ref) := by
  induction later generalizing run commits rollbacks with
  | nil => rfl
  | cons action later ih =>
    have rest := ih (h.step action) (by omega)
    exact rest.trans (h.settled spent action).1

theorem once (h : run.Counted ref commits rollbacks before) : commits + rollbacks ≤ 1 := by
  cases known : run.db.entries[ref]? with
  | none =>
    obtain ⟨rfl, rfl⟩ := h.unknown known
    exact Nat.zero_le 1
  | some entry => exact (h.known entry known).once

theorem exists_of_over (h : run.Counted ref commits rollbacks before)
    (spent : 0 < commits + rollbacks) : ∃ entry, run.db.entries[ref]? = some entry ∧
      run.db.transaction ref = entry.transaction ∧ entry.Counted commits rollbacks := by
  cases known : run.db.entries[ref]? with
  | none =>
    obtain ⟨rfl, rfl⟩ := h.unknown known
    exact absurd spent (Nat.lt_irrefl 0)
  | some entry => exact ⟨entry, rfl, Database.transaction_of_known known, h.known entry known⟩

theorem fixed (h : run.Counted ref commits rollbacks before) (spent : 0 < commits + rollbacks)
    (later : List Action) : ((run.steps later).db.transaction ref).isFinalized = true ∧
      ((run.steps later).db.transaction ref).rolledBack = (run.db.transaction ref).rolledBack := by
  obtain ⟨entry, known, same, counted⟩ := h.exists_of_over spent
  have settled := h.settled_steps spent later
  rw [Database.standing, Database.standing, known] at settled
  obtain ⟨last, known', standing⟩ := Option.map_eq_some_iff.mp settled
  simp only [Transaction.standing, Database.Standing.mk.injEq, Option.some.injEq,
    Prod.mk.injEq] at standing
  obtain ⟨carrier, _, rolledBack⟩ := standing
  rw [Database.transaction_of_known known', same]
  refine ⟨?_, rolledBack⟩
  rw [Transaction.isFinalized, carrier, counted.spent spent]
  rfl

theorem told (h : run.Counted ref commits rollbacks before) (spent : 0 < commits + rollbacks)
    (held : run.db.isHeld ref = true) (params : List Json.Value) {call : Transaction.Call}
    (asks : call = .begin ∨ call = .commit ∨ call = .rollback) :
    (0 < rollbacks →
        ∃ reason, (run.db.perform call params ref).1 = .error (.alreadyRolledBack reason)) ∧
      (0 < commits →
        ∃ reason, (run.db.perform call params ref).1 = .error (.alreadyCommitted reason)) := by
  obtain ⟨entry, known, _, counted⟩ := h.exists_of_over spent
  obtain ⟨_, known', handles⟩ := Database.exists_of_isHeld held
  cases known.symm.trans known'
  obtain ⟨commits_eq, rollbacks_eq⟩ := counted.flags handles
  obtain ⟨alarms, did⟩ := Database.perform_eq known call params
  rw [did]
  constructor
  · intro more
    have rolledBack : entry.transaction.rolledBack = true := by
      cases flag : entry.transaction.rolledBack <;> simp_all
    exact ⟨_, Transaction.late_of_rolledBack rolledBack asks run.db.backend⟩
  · intro more
    have committed : entry.transaction.carrierCommitted = true := by
      cases flag : entry.transaction.carrierCommitted <;> simp_all
    have sound := h.sound_of_known known handles
    exact sound.late_of_carrierCommitted committed asks run.db.backend

theorem closed (h : run.Counted ref commits rollbacks before) (spent : 0 < commits + rollbacks)
    (params : List Json.Value) {sql : String} (free : barred? sql = none) :
    (run.db.execute (.transaction ref) sql params).1 = .error (.driver .closed) ∧
      (run.db.fetch (.transaction ref) sql params).1 = .error (.driver .closed) := by
  obtain ⟨entry, _, same, counted⟩ := h.exists_of_over spent
  have gone := counted.spent spent
  simp only [Database.execute, Database.fetch, same, Transaction.execute_of_over gone free,
    Transaction.fetch_of_over gone free]
  exact ⟨trivial, trivial⟩

theorem exit_eq (h : run.Counted ref commits rollbacks before) (spent : 0 < commits + rollbacks)
    (held : run.db.isHeld ref = true) (action : ExitAction) : run.db.exit action ref =
      (.ok (), run.db.setTransaction ref (run.db.transaction ref).pop) := by
  obtain ⟨entry, known, same, counted⟩ := h.exists_of_over spent
  obtain ⟨_, known', handles⟩ := Database.exists_of_isHeld held
  cases known.symm.trans known'
  simp only [Database.exit, same, (h.sound_of_known known handles).exit_of_over (counted.spent spent)]
  rfl

end Counted

/-- At most one commit or rollback of a root takes place, the rollback counted that the last of its
users leaves behind. From then on its flags stay, its users do not reach the server, and they are told
which way it ended. -/
theorem ends_once (server : Server) (settings : Settings) (ref : Nat) (actions : List Action) :
    let first := start server settings
    let run := first.steps actions
    let commits := first.ends .commit ref actions
    let rollbacks := first.ends .rollback ref actions
    commits + rollbacks ≤ 1 ∧
      (0 < commits + rollbacks →
        (∀ later, ((run.steps later).db.transaction ref).isFinalized = true ∧
          ((run.steps later).db.transaction ref).rolledBack = (run.db.transaction ref).rolledBack) ∧
        (∀ action, action.root? = some ref → (run.step action).db.backend = run.db.backend) ∧
        (run.db.isHeld ref = true → ∀ params,
          (∀ call, call = .begin ∨ call = .commit ∨ call = .rollback →
            (0 < rollbacks →
              ∃ reason, (run.db.perform call params ref).1 = .error (.alreadyRolledBack reason)) ∧
            (0 < commits →
              ∃ reason, (run.db.perform call params ref).1 = .error (.alreadyCommitted reason))) ∧
          (∀ sql kind, kindOf sql = .ok kind → kind ≠ .transactionControl →
            (run.db.execute (.transaction ref) sql params).1 = .error (.driver .closed) ∧
              (run.db.fetch (.transaction ref) sql params).1 = .error (.driver .closed)) ∧
          ∀ action, run.db.exit action ref =
            (.ok (), run.db.setTransaction ref (run.db.transaction ref).pop))) := by
  intro first run commits rollbacks
  have h : run.Counted ref commits rollbacks server.journal := by
    have counted := (Counted.start server settings ref).steps actions
    rwa [Nat.zero_add, Nat.zero_add] at counted
  refine ⟨h.once, fun spent => ⟨h.fixed spent, fun action => (h.settled spent action).2,
    fun held params => ⟨fun call asks => h.told spent held params asks, fun sql kind known other => ?_,
      h.exit_eq spent held⟩⟩⟩
  exact h.closed spent params (barred?_eq_none_iff.mpr ⟨kind, known, other⟩)

theorem ends_of_commit :
    let actions : List Action := [.begin, .call 0 .begin [], .call 0 .commit [],
      .call 0 (.exit .rollback) [], .call 0 .commit []]
    let run := (start .empty .standard).steps actions
    (start .empty .standard).ends .commit 0 actions = 1 ∧ run.db.isHeld 0 = true ∧
      (∃ reason, (run.db.perform .rollback [] 0).1 = .error (.alreadyCommitted reason)) ∧
      (run.db.execute (.transaction 0) "DELETE FROM t" []).1 = .error (.driver .closed) ∧
      (run.step (.drop 0)).db.backend.server.counters = run.db.backend.server.counters := by
  intro actions run
  have once : (start .empty .standard).ends .commit 0 actions = 1 := by decide +kernel
  have held : run.db.isHeld 0 = true := by decide +kernel
  obtain ⟨_, settled⟩ := ends_once .empty .standard 0 actions
  obtain ⟨_, idle, late⟩ := settled (by rw [once]; exact Nat.lt_add_right _ Nat.one_pos)
  obtain ⟨decided, closed, _⟩ := late held []
  obtain ⟨kind, known, other⟩ :
      ∃ kind, kindOf "DELETE FROM t" = .ok kind ∧ kind ≠ .transactionControl :=
    barred?_eq_none_iff.mp (by decide +kernel)
  refine ⟨once, held, (decided .rollback (.inr (.inr rfl))).2 ?_, ?_, ?_⟩
  · rw [once]
    exact Nat.one_pos
  · exact (closed "DELETE FROM t" kind known other).1
  · rw [idle (.drop 0) rfl]

end Run

end NestedTx
