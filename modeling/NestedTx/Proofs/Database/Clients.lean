import NestedTx.Proofs.Database.Handles
import NestedTx.Proofs.Database.Roots
import NestedTx.Proofs.Transaction.Nesting
import NestedTx.Proofs.Transaction.Within

/-!
Clients that share a transaction and run their scopes at the same time. A scope is committed and left
in two steps, and each step is about the level that is innermost then, whoever entered it.
-/

namespace NestedTx

open Server (Change)

inductive Client
  | outside (scopes : List (List (String × List Json.Value)))
  | inside (todo : List (String × List Json.Value)) (scopes : List (List (String × List Json.Value)))
  | leaving (scopes : List (List (String × List Json.Value)))

def Client.isInScope : Client → Bool
  | outside _ => false
  | inside _ _ => true
  | leaving _ => true

def Client.step? : Client → Option ScopeStep
  | outside [] => none
  | outside (_ :: _) => some .enter
  | inside (_ :: _) _ => some .run
  | inside [] _ => some .commit
  | leaving _ => some .leave

theorem Client.isInScope_of_step? {client : Client} (ended : client.step? = none) :
    client.isInScope = false := by
  cases client with
  | outside => rfl
  | inside todo => cases todo <;> cases ended
  | leaving => cases ended

structure Sharing where
  db : Database
  clients : List Client
  steps : List ScopeStep
  answers : List (Except TransactionError Unit)
  ran : List String

namespace Sharing

def start (db : Database) (programs : List (List (List (String × List Json.Value)))) : Sharing :=
  ⟨db, programs.map .outside, [], [], []⟩

def move (ref : Nat) (sharing : Sharing) (i : Nat) : Sharing :=
  match sharing.clients[i]? with
  | none => sharing
  | some (.outside []) => sharing
  | some (.outside (todo :: scopes)) =>
    match sharing.db.enterNested ref with
    | (.error _, db) =>
      { sharing with
        db
        clients := sharing.clients.set i (.outside scopes)
        steps := sharing.steps ++ [.enter] }
    | (.ok _, db) =>
      { sharing with
        db
        clients := sharing.clients.set i (.inside todo scopes)
        steps := sharing.steps ++ [.enter] }
  | some (.inside ((sql, params) :: todo) scopes) =>
    match sharing.db.execute (.transaction ref) sql params with
    | (result, db) =>
      { sharing with
        db
        clients := sharing.clients.set i (.inside todo scopes)
        steps := sharing.steps ++ [.run]
        ran := sharing.ran ++ if result.toBool then [sql] else [] }
  | some (.inside [] scopes) =>
    match sharing.db.commit ref with
    | (answer, db) =>
      { sharing with
        db
        clients := sharing.clients.set i (.leaving scopes)
        steps := sharing.steps ++ [.commit]
        answers := sharing.answers ++ [answer] }
  | some (.leaving scopes) =>
    { sharing with
      db := (Scope.finishAs .rollback ⟨ref, .rollback⟩ sharing.db).2
      clients := sharing.clients.set i (.outside scopes)
      steps := sharing.steps ++ [.leave] }

def moves (ref : Nat) (sharing : Sharing) (order : List Nat) : Sharing := order.foldl (move ref) sharing

/-- The last two steps in a scope, one directly after the other, are its commit. -/
theorem move_move {ref : Nat} {sharing : Sharing} {i : Nat}
    {scopes : List (List (String × List Json.Value))}
    (here : sharing.clients[i]? = some (.inside [] scopes)) (onExit : ExitAction) :
    ((sharing.move ref i).move ref i).db = (Scope.commit ⟨ref, onExit⟩ sharing.db).2 ∧
      ((sharing.move ref i).move ref i).answers =
        sharing.answers ++ [(Scope.commit ⟨ref, onExit⟩ sharing.db).1] := by
  obtain ⟨hlt, _⟩ := List.getElem?_eq_some_iff.mp here
  have hfirst : sharing.move ref i =
      { db := (sharing.db.commit ref).2
        clients := sharing.clients.set i (.leaving scopes)
        steps := sharing.steps ++ [.commit]
        answers := sharing.answers ++ [(sharing.db.commit ref).1]
        ran := sharing.ran } := by
    simp only [move, here]
  have hthen : (sharing.clients.set i (.leaving scopes))[i]? = some (.leaving scopes) := by
    simp [hlt]
  rw [hfirst]
  simp only [move, hthen]
  exact ⟨rfl, rfl⟩

end Sharing

namespace Sharing

open ScopeStep

variable {ref : Nat} {base : Entry} {texts : List String} {server : Server} {levels : List Bool}
  {sharing : Sharing}

/-- All went well so far: the levels that the clients have open are the innermost ones, and the
server heard of nothing but statements. -/
structure Steady (ref : Nat) (base : Entry) (texts : List String) (server : Server)
    (levels : List Bool) (sharing : Sharing) : Prop where
  known : ∃ tx, sharing.db.entries[ref]? = some ⟨tx, base.handles + levels.length⟩ ∧
    base.transaction.Within levels (texts ++ sharing.ran) tx
  inScope : sharing.clients.countP Client.isInScope = levels.length
  change : Change [] 0 0 server sharing.db.backend.server
  answers : ∀ answer ∈ sharing.answers, answer = .ok ()

def Spoilt (server : Server) (sharing : Sharing) : Prop :=
  (∃ answer ∈ sharing.answers, answer ≠ .ok ()) ∨
    server.counters.rollbacks < sharing.db.backend.server.counters.rollbacks

theorem Spoilt.of_later (h : Spoilt server sharing) {sharing' : Sharing}
    (answers : ∀ answer ∈ sharing.answers, answer ∈ sharing'.answers)
    (rollbacks : sharing.db.backend.server.counters.rollbacks ≤
      sharing'.db.backend.server.counters.rollbacks) : Spoilt server sharing' := by
  rcases h with ⟨answer, mem, bad⟩ | more
  · exact .inl ⟨answer, answers answer mem, bad⟩
  · exact .inr (Nat.lt_of_lt_of_le more rollbacks)

theorem Spoilt.move (h : Spoilt server sharing) (ref i : Nat) : Spoilt server (sharing.move ref i) := by
  have hcall (call : Transaction.Call) (params : List Json.Value) :=
    Database.rollbacks_perform call params ref sharing.db
  unfold Sharing.move
  split
  · exact h
  · exact h
  · have hdb := hcall .begin []
    rw [← Database.enterNested_db] at hdb
    split
    · rename_i he
      rw [he] at hdb
      exact h.of_later (fun _ mem => mem) hdb
    · rename_i he
      rw [he] at hdb
      exact h.of_later (fun _ mem => mem) hdb
  · rename_i sql params _ _ _
    have hdb := hcall (.execute sql) params
    rw [Database.perform_execute_db] at hdb
    generalize sharing.db.execute (.transaction ref) sql params = did at hdb
    exact h.of_later (fun _ mem => mem) hdb
  · have hdb := hcall .commit []
    simp only [Database.perform] at hdb
    generalize sharing.db.commit ref = did at hdb
    exact h.of_later (fun _ mem => List.mem_append_left _ mem) hdb
  · refine h.of_later (fun _ mem => mem) ?_
    exact Nat.le_trans (hcall (.exit .rollback) []) (Database.rollbacks_drop ref _)

theorem countP_set {clients : List Client} {i : Nat} {client : Client}
    (here : clients[i]? = some client) (client' : Client) :
    (clients.set i client').countP Client.isInScope + (if client.isInScope then 1 else 0) =
      clients.countP Client.isInScope + (if client'.isInScope then 1 else 0) := by
  obtain ⟨hlt, rfl⟩ := List.getElem?_eq_some_iff.mp here
  rw [List.countP_set hlt]
  cases hi : clients[i].isInScope with
  | false => simp
  | true =>
    have hpos : 0 < clients.countP Client.isInScope :=
      List.countP_pos_iff.mpr ⟨_, List.getElem_mem hlt, hi⟩
    simp only [if_true]
    omega

namespace Steady

variable {i : Nat} {todo : List (String × List Json.Value)}
  {scopes : List (List (String × List Json.Value))}

theorem enter (h : Steady ref base texts server levels sharing)
    (here : sharing.clients[i]? = some (.outside (todo :: scopes))) :
    Steady ref base texts server (false :: levels) (sharing.move ref i) := by
  obtain ⟨tx, known, within⟩ := h.known
  obtain ⟨did, within'⟩ := within.enter sharing.db.backend
  obtain ⟨db', hdb, known', hbackend⟩ := Database.perform_known known [] did
  have entered : sharing.db.enterNested ref = (.ok ⟨ref, .rollback⟩, db') := by
    rw [Database.enterNested, show sharing.db.beginNested ref = (.ok (), db') from hdb]
  have hcount := countP_set here (.inside todo scopes)
  simp only [move, here, entered]
  refine ⟨⟨tx.push, known', within'⟩, ?_, hbackend ▸ h.change, h.answers⟩
  simpa [Client.isInScope, h.inScope] using hcount

theorem run {sql : String} {params : List Json.Value} (h : Steady ref base texts server levels sharing)
    (here : sharing.clients[i]? = some (.inside ((sql, params) :: todo) scopes)) :
    Steady ref base texts server levels (sharing.move ref i) := by
  obtain ⟨tx, known, within⟩ := h.known
  obtain ⟨answer, tx', server', did, change, within'⟩ :=
    within.execute sql sharing.db.backend
  obtain ⟨db', hdb, known', hbackend⟩ := Database.perform_known known params did
  have hcount := countP_set here (.inside todo scopes)
  simp only [Database.perform] at hdb
  rcases he : sharing.db.execute (.transaction ref) sql params with ⟨result, db⟩
  rw [he] at hdb
  cases hdb
  simp only [move, here, he]
  refine ⟨⟨tx', known', ?_⟩, ?_, ?_, h.answers⟩
  · rw [← List.append_assoc]
    cases result <;> exact within'
  · simpa [Client.isInScope, h.inScope] using hcount
  · rw [hbackend]
    exact h.change.trans change

theorem commit (h : Steady ref base texts server (false :: levels) sharing)
    (here : sharing.clients[i]? = some (.inside [] scopes)) :
    Steady ref base texts server (true :: levels) (sharing.move ref i) := by
  obtain ⟨tx, known, within⟩ := h.known
  obtain ⟨did, within'⟩ := within.commit sharing.db.backend
  obtain ⟨db', hdb, known', hbackend⟩ := Database.perform_known known [] did
  have committed : sharing.db.commit ref = (.ok (), db') := hdb
  have hcount := countP_set here (.leaving scopes)
  simp only [move, here, committed]
  refine ⟨⟨_, known', within'⟩, ?_, hbackend ▸ h.change, ?_⟩
  · simpa [Client.isInScope, h.inScope] using hcount
  · intro answer mem
    rcases List.mem_append.mp mem with mem | mem
    · exact h.answers answer mem
    · exact List.mem_singleton.mp mem

theorem commit_twice (h : Steady ref base texts server (true :: levels) sharing)
    (here : sharing.clients[i]? = some (.inside [] scopes)) :
    Spoilt server (sharing.move ref i) := by
  obtain ⟨tx, known, within⟩ := h.known
  obtain ⟨db', hdb, _⟩ :=
    Database.perform_known known [] (within.commit_twice sharing.db.backend)
  have committed : sharing.db.commit ref = (.error .committed, db') := hdb
  simp only [move, here, committed]
  exact .inl ⟨.error .committed, List.mem_append_right _ (List.mem_singleton_self _), nofun⟩

theorem leave (held : 0 < base.handles) (h : Steady ref base texts server (true :: levels) sharing)
    (here : sharing.clients[i]? = some (.leaving scopes)) :
    Steady ref base texts server levels (sharing.move ref i) := by
  obtain ⟨tx, known, within⟩ := h.known
  obtain ⟨did, within'⟩ := within.leave sharing.db.backend
  obtain ⟨db', hdb, known', hbackend⟩ := Database.perform_known known [] did
  have left : sharing.db.exit .rollback ref = (.ok (), db') := hdb
  have hhandles : base.handles + (true :: levels).length + Transaction.Call.handles (.exit .rollback)
      (.ok () : Except TransactionError Unit) = base.handles - 1 + levels.length + 2 := by
    simp only [Transaction.Call.handles, List.length_cons]
    omega
  rw [hhandles] at known'
  obtain ⟨known'', hdropped⟩ := Database.drop_of_more known'
  have hcount := countP_set here (.outside scopes)
  simp only [move, here, Scope.finishAs, left]
  refine ⟨⟨_, ?_, within'⟩, ?_, ?_, h.answers⟩
  · rw [known'']
    congr 2
    omega
  · simpa [Client.isInScope, h.inScope] using hcount
  · rw [hdropped, hbackend]
    exact h.change

theorem leave_pending (obliging : server.Obliging)
    (h : Steady ref base texts server (false :: levels) sharing)
    (here : sharing.clients[i]? = some (.leaving scopes)) :
    Spoilt server (sharing.move ref i) := by
  obtain ⟨tx, known, within⟩ := h.known
  have htx : sharing.db.transaction ref = tx := Database.transaction_of_known known
  have rolledBack := within.leave_pending (h.change.obliging obliging)
  rw [← htx, ← Database.perform_backend _ [] ref, h.change.rollbacks] at rolledBack
  simp only [move, here]
  exact .inr (Nat.lt_of_lt_of_le rolledBack (Database.rollbacks_drop ref _))

theorem levels_ne_nil (h : Steady ref base texts server levels sharing) {client : Client}
    (here : sharing.clients[i]? = some client) (inside : client.isInScope = true) : levels ≠ [] := by
  rintro rfl
  have outside := List.countP_eq_zero.mp h.inScope client (List.mem_of_getElem? here)
  exact outside inside

end Steady

def Going (ref : Nat) (base : Entry) (texts : List String) (server : Server) (sharing : Sharing) :
    Prop :=
  match walk [] sharing.steps with
  | some levels => Steady ref base texts server levels sharing
  | none => Spoilt server sharing

theorem steps_move {i : Nat} {client : Client} (here : sharing.clients[i]? = some client) :
    (sharing.move ref i).steps = sharing.steps ++ client.step?.toList := by
  unfold Sharing.move
  rw [here]
  cases client with
  | outside scopes =>
    cases scopes with
    | nil => exact (List.append_nil _).symm
    | cons todo scopes => rcases sharing.db.enterNested ref with ⟨_ | _, db⟩ <;> rfl
  | inside todo scopes =>
    cases todo with
    | nil => rfl
    | cons first todo => rfl
  | leaving scopes => rfl

theorem move_of_idle {i : Nat} (idle : sharing.clients[i]?.bind Client.step? = none) :
    sharing.move ref i = sharing := by
  unfold Sharing.move
  cases here : sharing.clients[i]? with
  | none => rfl
  | some client =>
    rw [here, Option.bind_some] at idle
    cases client with
    | outside scopes =>
      cases scopes with
      | nil => rfl
      | cons => cases idle
    | inside todo => cases todo <;> cases idle
    | leaving => cases idle

theorem Steady.move (obliging : server.Obliging) (held : 0 < base.handles)
    (h : Steady ref base texts server levels sharing) {i : Nat} {client : Client}
    (here : sharing.clients[i]? = some client) {step : ScopeStep} (next : client.step? = some step) :
    match ScopeStep.move levels step with
    | some levels' => Steady ref base texts server levels' (sharing.move ref i)
    | none => Spoilt server (sharing.move ref i) := by
  have nonempty := h.levels_ne_nil here
  -- A commit meets the innermost level as it is, and so does an exit, whosever the level is.
  cases client with
  | outside scopes =>
    cases scopes with
    | nil => cases next
    | cons todo scopes =>
      cases next
      exact h.enter here
  | inside todo scopes =>
    cases todo with
    | nil =>
      cases next
      cases levels with
      | nil => exact absurd rfl (nonempty rfl)
      | cons committed levels =>
        cases committed with
        | false => exact h.commit here
        | true => exact h.commit_twice here
    | cons first todo =>
      cases next
      exact h.run here
  | leaving scopes =>
    cases next
    cases levels with
    | nil => exact absurd rfl (nonempty rfl)
    | cons committed levels =>
      cases committed with
      | false => exact h.leave_pending obliging here
      | true => exact h.leave held here

theorem Going.move (obliging : server.Obliging) (held : 0 < base.handles)
    (going : Going ref base texts server sharing) (i : Nat) :
    Going ref base texts server (sharing.move ref i) := by
  cases next : sharing.clients[i]?.bind Client.step? with
  | none => rwa [move_of_idle next]
  | some step =>
    obtain ⟨client, here, next⟩ := Option.bind_eq_some_iff.mp next
    have steps : (sharing.move ref i).steps = _ := steps_move here
    rw [next, Option.toList_some] at steps
    unfold Going at going ⊢
    rw [steps]
    cases walked : walk [] sharing.steps with
    | none =>
      rw [walked] at going
      rw [walk_append, walked]
      exact Spoilt.move going ref i
    | some levels =>
      rw [walked] at going
      rw [walk_concat walked]
      exact Steady.move obliging held going here next

theorem Going.moves (obliging : server.Obliging) (held : 0 < base.handles)
    (going : Going ref base texts server sharing) (order : List Nat) :
    Going ref base texts server (sharing.moves ref order) := by
  induction order generalizing sharing with
  | nil => exact going
  | cons i order ih => exact ih (going.move obliging held i)

theorem start_steady {before : List String} {run : Run} (h : run.Consistent before) {entry : Entry}
    (known : run.db.entries[ref]? = some entry) (sound : entry.transaction.Sound)
    {carrier : ServerTransaction} (some : entry.transaction.carrier = some carrier)
    (live : carrier.done = false) (programs : List (List (List (String × List Json.Value)))) :
    Steady ref entry (History.statements (.root ref) run.history) run.db.backend.server []
      (start run.db programs) where
  known := by
    obtain ⟨uncommitted, whole⟩ := sound.flags_of_carrier some
    refine ⟨entry.transaction, known, ⟨carrier, some, ?_, live⟩, whole, uncommitted, rfl⟩
    simpa [start] using h.backed.holds_root known carrier some
  inScope := by
    rw [List.length_nil, List.countP_eq_zero]
    intro client mem
    obtain ⟨scopes, _, rfl⟩ := List.mem_map.mp mem
    exact Bool.false_ne_true
  change := .refl _
  answers := nofun

theorem Going.ended (going : Going ref base texts server sharing)
    (ended : ∀ client ∈ sharing.clients, client.step? = none) :
    (WellNested sharing.steps → Steady ref base texts server [] sharing) ∧
      (¬WellNested sharing.steps → Spoilt server sharing) := by
  rw [wellNested_iff]
  unfold Going at going
  cases walked : walk [] sharing.steps with
  | none =>
    rw [walked] at going
    exact ⟨nofun, fun _ => going⟩
  | some levels =>
    rw [walked] at going
    have outside : sharing.clients.countP Client.isInScope = 0 := by
      rw [List.countP_eq_zero]
      intro client mem
      rw [Client.isInScope_of_step? (ended client mem)]
      exact Bool.false_ne_true
    have none : levels = [] := List.eq_nil_of_length_eq_zero (going.inScope.symm.trans outside)
    subst none
    exact ⟨fun _ => going, fun differs => absurd rfl differs⟩

/-- Clients that run their scopes in one open transaction on a server that obliges, in whatever order
they take their steps: all commits succeed and nothing is rolled back exactly if the steps are those of
well nested levels. The transaction is then where it was, and at its root a commit publishes all that
was run. -/
theorem commits_iff_wellNested (server : Server) (settings : Settings) (actions : List Action)
    {run : Run} (reached : (Run.start server settings).steps actions = run) {ref : Nat}
    (held : run.db.isHeld ref = true) (opened : isLive (run.db.held (.root ref)) = true)
    (obliging : run.db.backend.server.Obliging)
    (programs : List (List (List (String × List Json.Value)))) (order : List Nat) {final : Sharing}
    (moved : (start run.db programs).moves ref order = final)
    (ended : ∀ client ∈ final.clients, client.step? = none) :
    ((∀ answer ∈ final.answers, answer = .ok ()) ∧
        final.db.backend.server.counters.rollbacks = run.db.backend.server.counters.rollbacks ↔
      WellNested final.steps) ∧
      (WellNested final.steps →
        (final.db.transaction ref).status = (run.db.transaction ref).status ∧
          (final.db.transaction ref).outer = (run.db.transaction ref).outer ∧
          final.db.backend.server.journal = run.db.backend.server.journal ∧
          ((run.db.transaction ref).depth = 0 → (final.db.commit ref).1 = .ok () ∧
            (final.db.commit ref).2.backend.server.journal = run.db.backend.server.journal ++
              History.statements (.root ref) run.history ++ final.ran)) := by
  have h : run.Consistent server.journal := by
    rw [← reached]
    exact (Run.start_consistent server settings).steps actions
  obtain ⟨entry, known, handles⟩ := Database.exists_of_isHeld held
  have sound : entry.transaction.Sound := by
    refine Run.start_sound server settings actions entry ?_ handles
    rw [reached]
    exact List.mem_of_getElem? known
  obtain ⟨carrier, some, live⟩ : ∃ carrier, entry.transaction.carrier = some carrier ∧
      carrier.done = false := by
    cases hc : entry.transaction.carrier <;>
      simp [Database.held, Database.standing, known, Transaction.standing, hc, isLive] at opened
    exact ⟨_, rfl, opened⟩
  have going : Going ref entry _ run.db.backend.server (start run.db programs) :=
    start_steady h known sound some live programs
  obtain ⟨good, bad⟩ := (moved ▸ going.moves obliging handles order).ended ended
  refine ⟨⟨?_, fun nested => ?_⟩, fun nested => ?_⟩
  · rintro ⟨answers, rollbacks⟩
    by_cases nested : WellNested final.steps
    · exact nested
    · rcases bad nested with ⟨answer, mem, failed⟩ | more
      · exact absurd (answers answer mem) failed
      · exact absurd rollbacks.symm (Nat.ne_of_lt more)
  · exact ⟨(good nested).answers, (good nested).change.rollbacks⟩
  · obtain ⟨tx, knownEnd, within⟩ := (good nested).known
    have change := (good nested).change
    have nest := within.nest
    rw [List.map_nil, List.nil_append, List.cons.injEq] at nest
    rw [Database.transaction_of_known known, Database.transaction_of_known knownEnd]
    refine ⟨nest.1, nest.2, by rw [change.journal, List.append_nil], fun depth => ?_⟩
    have root : entry.transaction.outer = [] := List.length_eq_zero_iff.mp depth
    obtain ⟨answer, journal⟩ :=
      within.commit_root root (sound.undecided_of_root some root) (change.obliging obliging)
    obtain ⟨alarms, did⟩ := Database.perform_eq knownEnd .commit []
    have hcommit : final.db.commit ref = final.db.perform .commit [] ref := rfl
    rw [change.journal, List.append_nil] at journal
    rw [hcommit, did, List.append_assoc]
    exact ⟨answer, journal⟩

theorem commits_of_nested :
    let run := (Run.start .empty .standard).steps [.begin]
    let final := (start run.db [[[]], [[("DELETE FROM t", [])]]]).moves 0 [0, 1, 1, 1, 1, 0, 0]
    WellNested final.steps ∧ (∀ answer ∈ final.answers, answer = .ok ()) ∧
      (final.db.commit 0).1 = .ok () := by
  intro run final
  have held : run.db.isHeld 0 = true := by decide +kernel
  have opened : isLive (run.db.held (.root 0)) = true := by decide +kernel
  have ended : ∀ client ∈ final.clients, client.step? = none := by decide +kernel
  have nested : WellNested final.steps := by decide +kernel
  obtain ⟨good, after⟩ := commits_iff_wellNested .empty .standard [.begin] rfl held opened
    ⟨by decide +kernel, by decide +kernel⟩ _ _ rfl ended
  obtain ⟨_, _, _, commit⟩ := after nested
  exact ⟨nested, (good.mpr nested).1, (commit (by decide +kernel)).1⟩

/-- A client that commits the level of another one. The other one finds it committed, and the level of
the client itself is left without a commit. -/
theorem commits_of_crossed :
    let run := (Run.start .empty .standard).steps [.begin]
    let final := (start run.db [[[("DELETE FROM t", [])]], [[("DELETE FROM u", [])]]]).moves 0
      [0, 1, 0, 1, 0, 1, 0, 1]
    run.db.isHeld 0 = true ∧ isLive (run.db.held (.root 0)) = true ∧
      run.db.backend.server.faults = .none ∧ run.db.backend.server.counters.rollbacks = 0 ∧
      (∀ client ∈ final.clients, client.step? = none) ∧
      final.answers.map Except.toBool = [true, false] ∧
      final.db.backend.server.counters.rollbacks = 1 ∧
      final.ran = ["DELETE FROM t", "DELETE FROM u"] ∧ (final.db.commit 0).1.toBool = false ∧
      (final.db.commit 0).2.backend.server.journal = [] := by
  decide +kernel

end Sharing

end NestedTx
