import NestedTx.Proofs.Database.Begun
import NestedTx.Proofs.Database.Levels

/-!
Workers that share a transaction and enter scopes in scopes, all of which end well. A level that a
worker leaves need not be the one that it entered, but all levels that are entered look the same: they
are pending, and an exit passes each of them to the level around it. The one level that would be
committed on the server is never left, because the workers leave no more levels than they entered.
-/

namespace NestedTx

open Server (Change)

namespace Transaction

/-- An open transaction, and the levels that were entered in it since, none of them decided. -/
structure Deeper (base : Transaction) (done : Bool) (depth : Nat) (texts : List String)
    (tx : Transaction) : Prop where
  carries : ∃ carrier, tx.carrier = some carrier ∧ carrier.Holds texts ∧ carrier.done = done
  whole : tx.rolledBack = false
  uncommitted : tx.carrierCommitted = false
  nest : tx.status :: tx.outer = List.replicate depth .pending ++ base.status :: base.outer

namespace Deeper

variable {base tx : Transaction} {done : Bool} {depth : Nat} {texts : List String}

theorem enter (h : Deeper base done depth texts tx) (backend : Backend) :
    Call.begin.perform tx backend = (.ok (), tx.push, backend) ∧
      Deeper base done (depth + 1) texts tx.push := by
  refine ⟨by simp [Call.perform, begin, h.whole, h.uncommitted], h.carries, h.whole, h.uncommitted, ?_⟩
  rw [List.replicate_succ, List.cons_append, ← h.nest]
  rfl

theorem execute (h : Deeper base done depth texts tx) (sql : String) (backend : Backend) :
    ∃ answer tx' server', (Call.execute sql).perform tx backend =
        (answer, tx', { backend with server := server' }) ∧
      Change [] 0 0 backend.server server' ∧
      Deeper base done depth (texts ++ if answer.toBool then [sql] else []) tx' ∧
      (answer.toBool = true → done = false) := by
  obtain ⟨carrier, some, holds, same⟩ := h.carries
  obtain ⟨answer, carrier', server', did, change, holds', same', live⟩ :=
    perform_execute some holds sql backend
  rw [same] at same' live
  exact ⟨answer, _, server', did, change,
    ⟨⟨carrier', rfl, holds', same'⟩, h.whole, h.uncommitted, h.nest⟩, live⟩

theorem pass (h : Deeper base done (depth + 1) texts tx) (backend : Backend) :
    (Call.exit .commit).perform tx backend = (.ok (), tx.pop, backend) ∧
      Deeper base done depth texts tx.pop := by
  have nest := h.nest
  rw [List.replicate_succ, List.cons_append, List.cons.injEq] at nest
  obtain ⟨pending, outer⟩ := nest
  have nested : tx.outer ≠ [] := by simp [outer]
  obtain ⟨saved, rest, ho⟩ := List.exists_cons_of_ne_nil nested
  constructor
  · simp [Call.perform, exit, autoCommit, h.whole, pending, ho]
    rfl
  · constructor
    · simpa using h.carries
    · simpa using h.whole
    · simpa using h.uncommitted
    · rw [← outer, ho]
      simp [Transaction.pop, ho, setStatus]

end Deeper

end Transaction

inductive Task
  | run (sql : String) (params : List Json.Value)
  | scope (tasks : List Task)

structure Worker where
  todo : List Task
  around : List (List Task)

def Worker.isDone (worker : Worker) : Bool := worker.todo.isEmpty && worker.around.isEmpty

structure Crew where
  db : Database
  workers : List Worker
  answers : List (Except TransactionError Unit)
  ran : List String

namespace Crew

def start (db : Database) (programs : List (List Task)) : Crew :=
  ⟨db, programs.map fun tasks => ⟨tasks, []⟩, [], []⟩

def move (ref : Nat) (crew : Crew) (i : Nat) : Crew :=
  match crew.workers[i]? with
  | none => crew
  | some ⟨.run sql params :: todo, around⟩ =>
    match crew.db.execute (.transaction ref) sql params with
    | (result, db) =>
      { crew with
        db
        workers := crew.workers.set i ⟨todo, around⟩
        ran := crew.ran ++ if result.toBool then [sql] else [] }
  | some ⟨.scope tasks :: todo, around⟩ =>
    match crew.db.enterNested ref with
    | (.error error, db) =>
      { crew with
        db
        workers := crew.workers.set i ⟨todo, around⟩
        answers := crew.answers ++ [.error error] }
    | (.ok _, db) =>
      { crew with
        db
        workers := crew.workers.set i ⟨tasks, todo :: around⟩
        answers := crew.answers ++ [.ok ()] }
  | some ⟨[], todo :: around⟩ =>
    match Scope.finishAs .commit ⟨ref, .rollback⟩ crew.db with
    | (answer, db) =>
      { crew with
        db
        workers := crew.workers.set i ⟨todo, around⟩
        answers := crew.answers ++ [answer] }
  | some ⟨[], []⟩ => crew

def moves (ref : Nat) (crew : Crew) (order : List Nat) : Crew := order.foldl (move ref) crew

def depth : List Worker → Nat
  | [] => 0
  | worker :: workers => worker.around.length + depth workers

theorem depth_set {workers : List Worker} {i : Nat} {worker : Worker}
    (here : workers[i]? = some worker) (worker' : Worker) :
    depth (workers.set i worker') + worker.around.length = depth workers + worker'.around.length := by
  induction workers generalizing i with
  | nil => cases here
  | cons first workers ih =>
    cases i with
    | zero =>
      cases here
      simp only [depth, List.set_cons_zero]
      omega
    | succ i =>
      have rest := ih here
      simp only [depth, List.set_cons_succ]
      omega

structure Steady (ref : Nat) (base : Entry) (done : Bool) (texts : List String) (server : Server)
    (crew : Crew) : Prop where
  known : ∃ tx, crew.db.entries[ref]? = some ⟨tx, base.handles + depth crew.workers⟩ ∧
    base.transaction.Deeper done (depth crew.workers) (texts ++ crew.ran) tx
  change : Change [] 0 0 server crew.db.backend.server
  answers : ∀ answer ∈ crew.answers, answer = .ok ()
  ran : done = true → crew.ran = []

variable {ref : Nat} {base : Entry} {done : Bool} {texts : List String} {server : Server} {crew : Crew}

theorem answers_ok (h : ∀ answer ∈ crew.answers, answer = .ok ()) :
    ∀ answer ∈ crew.answers ++ [.ok ()], answer = .ok () := by
  intro answer mem
  rcases List.mem_append.mp mem with mem | mem
  · exact h answer mem
  · exact List.mem_singleton.mp mem

namespace Steady

variable {i : Nat} {todo tasks : List Task} {around : List (List Task)}

theorem run {sql : String} {params : List Json.Value} (h : Steady ref base done texts server crew)
    (here : crew.workers[i]? = some ⟨.run sql params :: todo, around⟩) :
    Steady ref base done texts server (crew.move ref i) := by
  obtain ⟨tx, known, deeper⟩ := h.known
  obtain ⟨answer, tx', server', did, change, deeper', live⟩ := deeper.execute sql crew.db.backend
  obtain ⟨db', hdb, known', hbackend⟩ := Database.perform_known known params did
  have same : depth (crew.workers.set i ⟨todo, around⟩) = depth crew.workers :=
    Nat.add_right_cancel (depth_set here ⟨todo, around⟩)
  simp only [Database.perform] at hdb
  rcases he : crew.db.execute (.transaction ref) sql params with ⟨result, db⟩
  rw [he] at hdb
  cases hdb
  simp only [move, here, he]
  refine ⟨⟨tx', ?_, ?_⟩, ?_, h.answers, fun spent => ?_⟩
  · rw [same]
    exact known'
  · rw [same, ← List.append_assoc]
    cases result <;> exact deeper'
  · rw [hbackend]
    exact h.change.trans change
  · rw [h.ran spent]
    cases result with
    | error => rfl
    | ok => cases spent.symm.trans (live rfl)

theorem enter (h : Steady ref base done texts server crew)
    (here : crew.workers[i]? = some ⟨.scope tasks :: todo, around⟩) :
    Steady ref base done texts server (crew.move ref i) := by
  obtain ⟨tx, known, deeper⟩ := h.known
  obtain ⟨did, deeper'⟩ := deeper.enter crew.db.backend
  obtain ⟨db', hdb, known', hbackend⟩ := Database.perform_known known [] did
  have entered : crew.db.enterNested ref = (.ok ⟨ref, .rollback⟩, db') := by
    rw [Database.enterNested, show crew.db.beginNested ref = (.ok (), db') from hdb]
  have more : depth (crew.workers.set i ⟨tasks, todo :: around⟩) = depth crew.workers + 1 := by
    have count := depth_set here ⟨tasks, todo :: around⟩
    simp only [List.length_cons] at count
    omega
  simp only [move, here, entered]
  refine ⟨⟨tx.push, ?_, ?_⟩, hbackend ▸ h.change, answers_ok h.answers, h.ran⟩
  · rw [more]
    exact known'
  · rw [more]
    exact deeper'

theorem leave (held : 0 < base.handles) (h : Steady ref base done texts server crew)
    (here : crew.workers[i]? = some ⟨[], todo :: around⟩) :
    Steady ref base done texts server (crew.move ref i) := by
  obtain ⟨tx, known, deeper⟩ := h.known
  -- The worker is in a scope itself, so there is a level besides those that were there at first.
  have less : depth (crew.workers.set i ⟨todo, around⟩) + 1 = depth crew.workers := by
    have count := depth_set here ⟨todo, around⟩
    simp only [List.length_cons] at count
    omega
  rw [← less] at known deeper
  obtain ⟨did, deeper'⟩ := deeper.pass crew.db.backend
  have handles : base.handles + (depth (crew.workers.set i ⟨todo, around⟩) + 1) =
      base.handles - 1 + depth (crew.workers.set i ⟨todo, around⟩) + 2 := by omega
  rw [handles] at known
  obtain ⟨db', left, known', hbackend⟩ := Database.finishAs_known known did .rollback
  have one : base.handles - 1 + depth (crew.workers.set i ⟨todo, around⟩) + 1 =
      base.handles + depth (crew.workers.set i ⟨todo, around⟩) := by omega
  rw [one] at known'
  simp only [move, here, left]
  exact ⟨⟨tx.pop, known', deeper'⟩, hbackend ▸ h.change, answers_ok h.answers, h.ran⟩

theorem move (held : 0 < base.handles) (h : Steady ref base done texts server crew) (i : Nat) :
    Steady ref base done texts server (crew.move ref i) := by
  cases here : crew.workers[i]? with
  | none => rwa [show crew.move ref i = crew by simp only [Crew.move, here]]
  | some worker =>
    obtain ⟨todo, around⟩ := worker
    cases todo with
    | cons task todo =>
      cases task with
      | run sql params => exact h.run here
      | scope tasks => exact h.enter here
    | nil =>
      cases around with
      | cons todo around => exact h.leave held here
      | nil => rwa [show crew.move ref i = crew by simp only [Crew.move, here]]

theorem moves (held : 0 < base.handles) (h : Steady ref base done texts server crew)
    (order : List Nat) : Steady ref base done texts server (crew.moves ref order) := by
  induction order generalizing crew with
  | nil => exact h
  | cons i order ih => exact ih (h.move held i)

end Steady

theorem depth_of_done {workers : List Worker} (h : ∀ worker ∈ workers, worker.around = []) :
    depth workers = 0 := by
  induction workers with
  | nil => rfl
  | cons worker workers ih =>
    have rest := ih fun other mem => h other (List.mem_cons_of_mem _ mem)
    rw [depth, h worker List.mem_cons_self, List.length_nil, rest]

theorem start_steady {entry : Entry} {carrier : ServerTransaction} {db : Database}
    (known : db.entries[ref]? = some entry) (sound : entry.transaction.Sound)
    (some : entry.transaction.carrier = some carrier) (holds : carrier.Holds texts)
    (programs : List (List Task)) :
    Steady ref entry carrier.done texts db.backend.server (start db programs) := by
  have none : depth (start db programs).workers = 0 := by
    apply depth_of_done
    intro worker mem
    obtain ⟨tasks, _, rfl⟩ := List.mem_map.mp mem
    rfl
  obtain ⟨uncommitted, whole⟩ := sound.flags_of_carrier some
  refine ⟨⟨entry.transaction, ?_, ?_⟩, .refl _, nofun, fun _ => rfl⟩
  · rw [none]
    exact known
  · rw [none]
    refine ⟨⟨carrier, some, ?_, rfl⟩, whole, uncommitted, rfl⟩
    rwa [show (start db programs).ran = [] from rfl, List.append_nil]

/-- Workers enter scopes in a transaction that is not finalized, run statements in them, and leave them
well, all in whatever order. Nobody is refused, the server hears of nothing but statements, and those
that succeed wait there in the order in which they were run; when all scopes are left, the levels are
those of the start. Only in a transaction that its user opened and ended by hand no statement
succeeds. -/
theorem scopes_pass (server : Server) (settings : Settings) (actions : List Action) {run : Run}
    (reached : (Run.start server settings).steps actions = run) {ref : Nat}
    (held : run.db.isHeld ref = true) (unfinalized : (run.db.transaction ref).isFinalized = false)
    (programs : List (List Task)) (order : List Nat) :
    let final := (start run.db programs).moves ref order
    let before := run.db.backend.server
    let after := final.db.backend.server
    (∀ answer ∈ final.answers, answer = .ok ()) ∧
      after.counters.commits = before.counters.commits ∧
      after.counters.rollbacks = before.counters.rollbacks ∧ after.journal = before.journal ∧
      (∃ carrier, (final.db.transaction ref).carrier = some carrier ∧
        (carrier.done = false → carrier.connection.link.pending =
          some (History.statements (.root ref) run.history ++ final.ran)) ∧
        (carrier.done = true → final.ran = [] ∧ run.tookUp ref = true)) ∧
      ((∀ worker ∈ final.workers, worker.isDone = true) →
        (final.db.transaction ref).status = (run.db.transaction ref).status ∧
          (final.db.transaction ref).outer = (run.db.transaction ref).outer) := by
  intro final before after
  obtain ⟨entry, carrier, known, handles, sound, some, waits, begun⟩ :=
    Run.exists_carrier reached held unfinalized
  have steady := (start_steady known sound some waits programs).moves handles order
  obtain ⟨tx, known', deeper⟩ := steady.known
  obtain ⟨carrier', some', holds, same⟩ := deeper.carries
  have htx : run.db.transaction ref = entry.transaction := Database.transaction_of_known known
  have htx' : final.db.transaction ref = tx := Database.transaction_of_known known'
  have change := steady.change
  rw [htx, htx']
  refine ⟨steady.answers, change.commits, change.rollbacks, ?_, ⟨carrier', some', ?_, ?_⟩, ?_⟩
  · rw [change.journal, List.append_nil]
  · intro live
    rw [ServerTransaction.Holds, live] at holds
    exact holds
  · intro spent
    rw [same] at spent
    refine ⟨steady.ran spent, ?_⟩
    cases took : run.tookUp ref with
    | true => rfl
    | false => cases (begun took).symm.trans spent
  · intro ended
    have none : depth final.workers = 0 := by
      apply depth_of_done
      intro worker mem
      have last := ended worker mem
      rw [Worker.isDone, Bool.and_eq_true] at last
      exact List.isEmpty_iff.mp last.2
    have nest := deeper.nest
    rw [none] at nest
    exact List.cons.inj nest

theorem scopes_pass_crossing :
    let run := (Run.start .empty .standard).steps [.begin, .call 0 .begin [], .call 0 .commit []]
    let crew := start run.db [[.scope [.run "DELETE FROM t" [], .scope [.run "DELETE FROM u" []]]],
      [.scope [.run "DELETE FROM" [], .run "DELETE FROM v" []]]]
    let final := crew.moves 0 [0, 1, 0, 1, 0, 1, 1, 0, 0, 0]
    run.db.isHeld 0 = true ∧ (run.db.transaction 0).isFinalized = false ∧
      (∀ answer ∈ final.answers, answer = .ok ()) ∧ final.answers.length = 6 ∧
      final.ran = ["DELETE FROM t", "DELETE FROM v", "DELETE FROM u"] ∧
      (final.db.transaction 0).status = .committed ∧ (final.db.transaction 0).outer = [.pending] := by
  intro run crew final
  have held : run.db.isHeld 0 = true := by decide +kernel
  have unfinalized : (run.db.transaction 0).isFinalized = false := by decide +kernel
  have ended : ∀ worker ∈ final.workers, worker.isDone = true := by decide +kernel
  obtain ⟨answers, _, _, _, _, levels⟩ :=
    scopes_pass .empty .standard _ rfl held unfinalized _ [0, 1, 0, 1, 0, 1, 1, 0, 0, 0]
  obtain ⟨status, outer⟩ := levels ended
  refine ⟨held, unfinalized, answers, by decide +kernel, by decide +kernel, ?_, ?_⟩
  · exact status.trans (by decide +kernel)
  · exact outer.trans (by decide +kernel)

end Crew

end NestedTx
