import Mathlib.Data.List.Nodup
import Mathlib.Data.String.Basic
import NestedTx.Proofs.Database.Handles
import NestedTx.Proofs.Database.Tracked

namespace NestedTx

namespace Transaction

variable {tx tx' : Transaction} {backend backend' : Backend}

theorem id_pop (tx : Transaction) : tx.pop.id = tx.id := by
  unfold pop
  split <;> rfl

theorem id_settle (action : ExitAction) (tx : Transaction) : (tx.settle action).id = tx.id := by
  cases action <;> rfl

theorem Attempt.id_eq {action : ExitAction} {result : Except DriverError Unit}
    (attempt : Attempt action tx backend result tx' backend') : tx'.id = tx.id := by
  cases attempt with
  | missing | refused => rfl
  | done => exact id_settle action _

theorem Step.id_eq {call : Call} {answer : Except TransactionError Unit}
    (step : Step tx backend call answer tx' backend') : tx'.id = tx.id := by
  cases step with
  | lateForAll | lateForRoot | lateForLevel | lateForCommit | barred | closed | fetched | entered
  | noted | executed => rfl
  | left => exact id_pop tx
  | committing undecided root attempt => exact attempt.id_eq
  | rollingBack whole uncommitted attempt => exact attempt.id_eq
  | leaving whole uncommitted root attempt => exact (id_pop _).trans attempt.id_eq

end Transaction

theorem Entry.Use.id_eq {entry entry' : Entry} (use : entry.Use entry') :
    entry'.transaction.id = entry.transaction.id := by
  cases use with
  | called held call backend => exact (entry.transaction.perform_step backend call).id_eq
  | retained | dropped => rfl
  | abandoned backend =>
    simp only [Transaction.abandon]
    split <;> rfl
  | expired =>
    simp only [Transaction.expire]
    split <;> rfl

namespace Database

def name (ref : Nat) (db : Database) : String := (db.transaction ref).id

variable {db db' : Database} {ref : Nat}

theorem tracked_begin (ok : db.begin = (.ok ref, db')) : ref = db.entries.length ∧
    db'.isOpen ref = true ∧ db'.tracked =
      (db.tracked.filter fun t => db'.isOpen t.2) ++ [(db'.name ref, ref)] := by
  have refused (cause : DriverError) (backend : Backend) :
      ({ db with backend } : Database).refuseBegin cause ≠ (.ok ref, db') := by
    intro ok
    cases ok
  simp only [begin] at ok
  rcases hc : db.backend.checkout with ⟨error | connection, backend⟩
  · rw [hc] at ok
    exact absurd ok (refused _ _)
  · rw [hc] at ok
    rcases hb : ServerTransaction.begin connection backend with ⟨error | carrier, backend'⟩
    · simp only [hb] at ok
      exact absurd ok (refused _ _)
    · simp only [hb, adopt] at ok
      cases ok
      refine ⟨rfl, ?_, ?_⟩
      · simp [isOpen, prune, Transaction.root, Transaction.isFinalized]
      · simp [name, transaction, prune, isOpen, Transaction.root]

theorem isActive_eq (id : String) (db : Database) :
    db.isActive id = (db.tracked.lookup id).any fun ref => db.isOpen ref := by
  simp only [isActive, info?]
  cases db.tracked.lookup id with
  | none => rfl
  | some ref =>
    simp only [Option.any_some, snapshot?, isOpen]
    cases db.entries[ref]? with
    | none => rfl
    | some entry =>
      by_cases held : 0 < entry.handles
      · simp [held, Transaction.snapshot]
      · simp [held]

theorem snapshot?_of_isOpen (opened : db.isOpen ref = true) :
    db.snapshot? ref = some (db.transaction ref).snapshot := by
  obtain ⟨entry, known⟩ := exists_of_isOpen opened
  have held := ((isOpen_iff known).mp opened).1
  simp [snapshot?, known, held, transaction_of_known known]

theorem prune_prune (db : Database) : db.prune.prune = db.prune := by
  have same : db.prune.tracked.filter (fun t => db.prune.isOpen t.2) = db.prune.tracked := by
    apply List.filter_eq_self.mpr
    intro t mem
    exact (List.mem_filter.mp mem).2
  rw [prune, same]

theorem cleanup_eq (db : Database) :
    db.cleanup.1 = db.tracked.countP fun t => !db.isOpen t.2 := by
  have all := List.length_eq_countP_add_countP (fun t => db.isOpen t.2) (l := db.tracked)
  have rest : db.prune.tracked.length = db.tracked.countP fun t => db.isOpen t.2 :=
    List.countP_eq_length_filter.symm
  have finished : (db.tracked.countP fun t => decide ¬db.isOpen t.2 = true) =
      db.tracked.countP fun t => !db.isOpen t.2 := by simp
  show db.tracked.length - db.prune.tracked.length = _
  omega

end Database

namespace Run

def begunRoots (run : Run) : List Nat :=
  (List.range run.db.entries.length).filter fun ref => !run.tookUp ref

def issued (run : Run) : List String := run.begunRoots.map fun ref => run.db.name ref

def live (run : Run) : List Nat := run.begunRoots.filter fun ref => run.db.isOpen ref

def listed (run : Run) : List (String × Nat) := run.live.map fun ref => (run.db.name ref, ref)

variable {run : Run} {action : Action} {ref : Nat}

theorem db_step_begin {db' : Database} {result : Except TransactionError Nat}
    (begins : run.db.begin = (result, db')) : (run.step .begin).db = db' := by
  simp only [db_step, Action.perform, begins, Database.tell]

theorem mem_begunRoots :
    ref ∈ run.begunRoots ↔ ref < run.db.entries.length ∧ run.tookUp ref = false := by
  simp [begunRoots]

theorem mem_live : ref ∈ run.live ↔ run.db.isOpen ref = true ∧ run.tookUp ref = false := by
  rw [live, List.mem_filter, mem_begunRoots]
  constructor
  · rintro ⟨⟨_, begun⟩, opened⟩
    exact ⟨opened, begun⟩
  · rintro ⟨opened, begun⟩
    obtain ⟨_, known⟩ := Database.exists_of_isOpen opened
    exact ⟨⟨(List.getElem?_eq_some_iff.mp known).1, begun⟩, opened⟩

theorem nodup_live (run : Run) : run.live.Nodup := (List.nodup_range.filter _).filter _

theorem mem_listed {t : String × Nat} :
    t ∈ run.listed ↔ t.2 ∈ run.live ∧ t.1 = run.db.name t.2 := by
  rw [listed, List.mem_map]
  constructor
  · rintro ⟨ref, mem, rfl⟩
    exact ⟨mem, rfl⟩
  · rintro ⟨mem, same⟩
    exact ⟨t.2, mem, by rw [← same]⟩

theorem nodup_listed (run : Run) : run.listed.Nodup := by
  have refs : run.listed.map Prod.snd = run.live := by
    rw [listed, List.map_map]
    exact List.map_id _
  exact List.Nodup.of_map _ (refs ▸ run.nodup_live)

theorem Effect.name_eq {run' : Run} (effect : Effect run run') (below : ref < run.db.entries.length) :
    run'.db.name ref = run.db.name ref := by
  have known := List.getElem?_eq_getElem below
  obtain ⟨entry', known', same⟩ := effect.roots.stays
    (P := fun entry => entry.transaction.id = run.db.name ref) (fun use => use.id_eq.trans) known
    (by rw [Database.name, Database.transaction_of_known known])
  rwa [Database.name, Database.transaction_of_known known']

def Named (run : Run) : Prop := ∀ t ∈ run.db.tracked, t.1 = run.db.name t.2

namespace Named

theorem step (named : run.Named) (tracking : run.Tracking) (effect : Effect run (run.step action)) :
    (run.step action).Named := by
  have old {t : String × Nat} (mem : t ∈ run.db.tracked) : t.1 = (run.step action).db.name t.2 := by
    have below := (tracking.begun t.2 (List.mem_map_of_mem mem)).1
    rw [effect.name_eq below]
    exact named t mem
  intro t mem
  by_cases begins : action = .begin
  · subst begins
    rcases hb : run.db.begin with ⟨error | ref, db'⟩
    · have same := db_step_begin hb
      rcases run.db.begin_fresh with ⟨_, _, he, unmoved⟩ | ⟨_, _, _, he, _⟩
      · cases hb.symm.trans he
        rw [same, unmoved.tracked] at mem
        exact old mem
      · cases hb.symm.trans he
    · have same := db_step_begin hb
      obtain ⟨_, _, tracked⟩ := Database.tracked_begin hb
      rw [same, tracked] at mem
      rcases List.mem_append.mp mem with mem | mem
      · exact old (List.mem_filter.mp mem).1
      · rw [List.mem_singleton.mp mem, same]
  · by_cases prunes : action = .prune
    · subst prunes
      exact old (List.mem_filter.mp mem).1
    · rw [db_step, Action.tracked_eq begins prunes] at mem
      exact old mem

theorem steps {before : List String} (named : run.Named) (tracking : run.Tracking)
    (consistent : run.Consistent before) (actions : List Action) : (run.steps actions).Named := by
  induction actions generalizing run with
  | nil => exact named
  | cons action actions ih =>
    have effect := consistent.backed.effect action
    exact ih (named.step tracking effect) (tracking.step action) (consistent.effect effect)

end Named

theorem start_named (server : Server) (settings : Settings) (actions : List Action) :
    ((start server settings).steps actions).Named :=
  Named.steps (fun _ mem => absurd mem List.not_mem_nil) (start_tracking server settings [])
    (start_consistent server settings) actions

theorem prune_perm (tracking : run.Tracking) (named : run.Named) :
    run.db.prune.tracked.Perm run.listed := by
  have once : run.db.prune.tracked.Nodup := List.Nodup.of_map _ tracking.nodup_counted
  apply (List.perm_ext_iff_of_nodup once run.nodup_listed).mpr
  intro t
  rw [mem_listed, mem_live, ← tracking.mem_counted]
  constructor
  · intro mem
    exact ⟨List.mem_map_of_mem mem, named t (List.mem_filter.mp mem).1⟩
  · rintro ⟨mem, same⟩
    obtain ⟨t', mem', ref⟩ := List.mem_map.mp mem
    have name := named t' (List.mem_filter.mp mem').1
    rw [ref, ← same] at name
    rwa [← Prod.ext name ref]

theorem mem_tracked_of_live (tracking : run.Tracking) (named : run.Named) (mem : ref ∈ run.live) :
    (run.db.name ref, ref) ∈ run.db.tracked := by
  have listed : (run.db.name ref, ref) ∈ run.listed := mem_listed.mpr ⟨mem, rfl⟩
  exact (List.mem_filter.mp ((prune_perm tracking named).mem_iff.mpr listed)).1

theorem lookup_name (tracking : run.Tracking) (named : run.Named) (fresh : run.issued.Nodup)
    (mem : ref ∈ run.live) : run.db.tracked.lookup (run.db.name ref) = some ref := by
  have kept := mem_tracked_of_live tracking named mem
  obtain ⟨other, found⟩ := Option.isSome_iff_exists.mp
    (List.lookup_isSome_iff.mpr ⟨_, kept, beq_self_eq_true _⟩)
  obtain ⟨before, after, split, _⟩ := List.lookup_eq_some_iff.mp found
  have mem' : (run.db.name ref, other) ∈ run.db.tracked := by simp [split]
  have begun := mem_begunRoots.mpr (tracking.begun other (List.mem_map_of_mem mem'))
  have same := named _ mem'
  rw [found, List.inj_on_of_nodup_map fresh begun (List.mem_filter.mp mem).1 same.symm]

theorem isActive_iff (tracking : run.Tracking) (named : run.Named) (fresh : run.issued.Nodup)
    (id : String) : run.db.isActive id = true ↔ ∃ ref ∈ run.live, run.db.name ref = id := by
  rw [Database.isActive_eq]
  constructor
  · intro active
    obtain ⟨ref, found, opened⟩ := (Option.any_eq_true _ _).mp active
    obtain ⟨before, after, split, _⟩ := List.lookup_eq_some_iff.mp found
    have mem : (id, ref) ∈ run.db.tracked := by simp [split]
    have begun := (tracking.begun ref (List.mem_map_of_mem mem)).2
    exact ⟨ref, mem_live.mpr ⟨opened, begun⟩, (named _ mem).symm⟩
  · rintro ⟨ref, mem, rfl⟩
    rw [lookup_name tracking named fresh mem, Option.any_some]
    exact (mem_live.mp mem).1

theorem active_perm (tracking : run.Tracking) (named : run.Named) :
    run.db.active.1.Perm (run.live.map fun ref => (run.db.transaction ref).snapshot) := by
  have sorted := List.mergeSort_perm (run.db.prune.tracked.filterMap fun t => run.db.snapshot? t.2)
    fun a b => a.id ≤ b.id
  have listed := (prune_perm tracking named).filterMap fun t => run.db.snapshot? t.2
  have snapshots : (run.listed.filterMap fun t => run.db.snapshot? t.2) =
      run.live.map fun ref => (run.db.transaction ref).snapshot := by
    rw [Run.listed, List.filterMap_map, ← List.filterMap_eq_map]
    apply List.filterMap_congr
    intro ref mem
    exact Database.snapshot?_of_isOpen (mem_live.mp mem).1
  exact sorted.trans (snapshots ▸ listed)

theorem active_sorted (tracking : run.Tracking) (named : run.Named) (fresh : run.issued.Nodup) :
    run.db.active.1.Pairwise fun a b => a.id < b.id := by
  have sorted : run.db.active.1.Pairwise fun a b => decide (a.id ≤ b.id) = true := by
    apply List.pairwise_mergeSort
    · intro a b c first second
      exact decide_eq_true (String.le_trans (of_decide_eq_true first) (of_decide_eq_true second))
    · intro a b
      simpa using String.le_total a.id b.id
  have names : (run.live.map fun ref => (run.db.transaction ref).snapshot).map Snapshot.id =
      run.live.map fun ref => run.db.name ref := List.map_map
  have distinct : (run.live.map fun ref => run.db.name ref).Nodup :=
    (List.filter_sublist.map _).nodup fresh
  rw [← names, ← ((active_perm tracking named).map _).nodup_iff] at distinct
  have strict := sorted.and (List.pairwise_map.mp distinct)
  refine strict.imp fun both => ?_
  exact lt_of_le_of_ne (of_decide_eq_true both.1) both.2

end Run

namespace Database

def forget (db : Database) : Database := { db with tracked := [] }

def Agree {α : Type} (did did' : α × Database) : Prop := did.1 = did'.1 ∧ did.2.forget = did'.2.forget

theorem Agree.tell {ε α : Type} {did did' : Except ε α × Database} (h : Agree did did')
    (ofError : ε → DatabaseError) : Agree (tell ofError did) (tell ofError did') :=
  ⟨congrArg (fun result => (result.map fun _ => ()).mapError ofError) h.1, h.2⟩

theorem refuseBegin_forget (cause : DriverError) (db : Database) :
    Agree (db.forget.refuseBegin cause) (db.refuseBegin cause) := by
  have same : db.forget.settings = db.settings := rfl
  simp only [refuseBegin, same]
  cases db.settings.strict <;> exact ⟨rfl, rfl⟩

theorem begin_forget (db : Database) : Agree db.forget.begin db.begin := by
  have same : db.forget.backend = db.backend := rfl
  simp only [begin, same]
  rcases db.backend.checkout with ⟨error | connection, backend⟩
  · exact refuseBegin_forget error { db with backend }
  · dsimp only
    rcases ServerTransaction.begin connection backend with ⟨error | carrier, backend'⟩
    · exact refuseBegin_forget error { db with backend := backend' }
    · exact ⟨rfl, rfl⟩

theorem exit_forget (action : ExitAction) (ref : Nat) (db : Database) :
    Agree (db.forget.exit action ref) (db.exit action ref) := by
  have same : (db.forget.transaction ref).exit action db.forget.backend =
      (db.transaction ref).exit action db.backend := rfl
  simp only [exit, same]
  rcases (db.transaction ref).exit action db.backend with ⟨failed | _, tx, backend⟩
  · dsimp only
    cases tx.settings.strict <;> exact ⟨rfl, rfl⟩
  · exact ⟨rfl, rfl⟩

theorem perform_forget (call : Transaction.Call) (params : List Json.Value) (ref : Nat)
    (db : Database) : Agree (db.forget.perform call params ref) (db.perform call params ref) := by
  cases call with
  | begin =>
    have same : db.forget.transaction ref = db.transaction ref := rfl
    simp only [perform, beginNested, same]
    cases (db.transaction ref).begin with
    | error error => exact ⟨rfl, rfl⟩
    | ok tx => exact ⟨rfl, rfl⟩
  | exit action => exact db.exit_forget action ref
  | commit | rollback => exact ⟨rfl, rfl⟩
  | execute sql =>
    have same : (db.forget.transaction ref).execute sql db.forget.backend =
      (db.transaction ref).execute sql db.backend := rfl
    simp only [perform, execute, same]
    generalize (db.transaction ref).execute sql db.backend = did
    exact ⟨rfl, rfl⟩
  | fetch sql =>
    have same : (db.forget.transaction ref).fetch sql db.forget.backend =
      (db.transaction ref).fetch sql db.backend := rfl
    simp only [perform, fetch, same]
    generalize (db.transaction ref).fetch sql db.backend = did
    exact ⟨rfl, rfl⟩

theorem ping_forget (target : PingTarget) (db : Database) :
    Agree (db.forget.ping target) (db.ping target) := by
  cases target with
  | pool =>
    have same : db.forget.backend = db.backend := rfl
    simp only [ping, pingPool, same]
    rcases db.backend.checkout with ⟨error | connection, backend⟩ <;> exact ⟨rfl, rfl⟩
  | connection ref =>
    have same : db.forget.connection? ref = db.connection? ref := rfl
    simp only [ping, pingConnection, same]
    cases db.connection? ref <;> exact ⟨rfl, rfl⟩

theorem beginOn_forget (ref : Nat) (db : Database) :
    Agree (db.forget.beginOn ref) (db.beginOn ref) := by
  have same : db.forget.connection? ref = db.connection? ref := rfl
  have backend : db.forget.backend = db.backend := rfl
  simp only [beginOn, same, backend]
  cases db.connection? ref with
  | none => exact ⟨rfl, rfl⟩
  | some connection =>
    dsimp only
    rcases ServerTransaction.begin connection db.backend with ⟨error | tx, backend'⟩ <;>
      exact ⟨rfl, rfl⟩

end Database

open Database in
theorem Action.perform_forget (action : Action) (db : Database) :
    Agree (action.perform db.forget) (action.perform db) := by
  cases action with
  | begin => exact db.begin_forget.tell .transaction
  | call ref call params =>
    have held : db.forget.isHeld ref = db.isHeld ref := rfl
    simp only [perform, held]
    split
    · exact (db.perform_forget call params ref).tell .transaction
    · exact ⟨rfl, rfl⟩
  | retain ref =>
    have held : db.forget.isHeld ref = db.isHeld ref := rfl
    simp only [perform, held]
    split <;> exact ⟨rfl, rfl⟩
  | drop ref =>
    have same : db.forget.entries = db.entries := rfl
    simp only [perform, Database.drop, same]
    rcases db.entries[ref]? with _ | ⟨tx, _ | _ | handles⟩ <;> exact ⟨rfl, rfl⟩
  | expire ref openFor =>
    have same : db.forget.entries = db.entries := rfl
    simp only [perform, Database.expire, same]
    rcases db.entries[ref]? with _ | ⟨tx, _ | handles⟩
    · exact ⟨rfl, rfl⟩
    · exact ⟨rfl, rfl⟩
    · dsimp only
      cases tx.leaksNow <;> exact ⟨rfl, rfl⟩
  | ping target => exact (db.ping_forget target).tell .driver
  | beginOn ref => exact (db.beginOn_forget ref).tell .driver
  | finish action ref =>
    have same : db.forget.serverTransaction? ref = db.serverTransaction? ref := rfl
    apply Agree.tell
    cases action <;> simp only [Database.serverCommit, Database.serverRollback, same] <;>
      cases db.serverTransaction? ref <;> exact ⟨rfl, rfl⟩
  | takeUp ref id settings =>
    have same : db.forget.serverTransaction? ref = db.serverTransaction? ref := rfl
    simp only [perform, Database.takeUp, same]
    cases db.serverTransaction? ref <;> exact ⟨rfl, rfl⟩
  | executeOn ref | fetchOn ref | giveBack ref =>
    have same : db.forget.connection? ref = db.connection? ref := rfl
    simp only [perform, Database.executeOn, Database.fetchOn, Database.giveBack, same]
    cases db.connection? ref <;> exact ⟨rfl, rfl⟩
  | serverExecute ref | serverFetch ref | letGo ref =>
    have same : db.forget.serverTransaction? ref = db.serverTransaction? ref := rfl
    simp only [perform, Database.serverExecute, Database.serverFetch, Database.letGo, same]
    cases db.serverTransaction? ref <;> exact ⟨rfl, rfl⟩
  | execute | fetch | borrow =>
    have same : db.forget.backend = db.backend := rfl
    simp only [perform, Database.execute, Database.fetch, Database.borrow, same]
    rcases db.backend.checkout with ⟨error | connection, backend⟩ <;> exact ⟨rfl, rfl⟩
  | attach =>
    have same : db.forget.backend = db.backend := rfl
    simp only [perform, Database.attach, same]
    rcases db.backend.server.connect with ⟨error | link, server⟩ <;> exact ⟨rfl, rfl⟩
  | prune | setFaults | answer => exact ⟨rfl, rfl⟩

theorem Action.agree {db db' : Database} (same : db.forget = db'.forget) (action : Action) :
    Database.Agree (action.perform db) (action.perform db') := by
  have first := action.perform_forget db
  have second := action.perform_forget db'
  rw [same] at first
  exact ⟨first.1.symm.trans second.1, first.2.symm.trans second.2⟩

theorem Database.after_forget (actions : List Action) (db : Database) :
    (db.forget.after actions).forget = (db.after actions).forget := by
  have both {db db' : Database} (same : db.forget = db'.forget) :
      (db.after actions).forget = (db'.after actions).forget := by
    induction actions generalizing db db' with
    | nil => exact same
    | cons action actions ih => exact ih (action.agree same).2
  exact both rfl

namespace Run

variable {run : Run}

theorem tracked_perm_iff (tracking : run.Tracking) (named : run.Named) :
    run.db.tracked.Perm run.listed ↔ run.db.cleanup.1 = 0 := by
  have pruned := prune_perm tracking named
  constructor
  · intro exact
    have same := (exact.trans pruned.symm).length_eq
    show run.db.tracked.length - run.db.prune.tracked.length = 0
    omega
  · intro clean
    rw [Database.cleanup_eq, List.countP_eq_zero] at clean
    have all : run.db.prune.tracked = run.db.tracked := by
      apply List.filter_eq_self.mpr
      intro t mem
      simpa using clean t mem
    rwa [all] at pruned

theorem cleanup_begin (run : Run) : (run.step .begin).db.cleanup.1 = 0 ↔
    run.db.begin.1.toBool = true ∨ run.db.cleanup.1 = 0 := by
  rcases hb : run.db.begin with ⟨error | ref, db'⟩
  · have same := db_step_begin hb
    rcases run.db.begin_fresh with ⟨_, _, he, unmoved⟩ | ⟨_, _, _, he, _⟩
    · cases hb.symm.trans he
      have opened (t : String × Nat) : db'.isOpen t.2 = run.db.isOpen t.2 :=
        Database.isOpen_of_entries (by rw [unmoved.entries])
      simp [same, Database.cleanup_eq, unmoved.tracked, opened, Except.toBool]
    · cases hb.symm.trans he
  · have same := db_step_begin hb
    obtain ⟨_, opened, tracked⟩ := Database.tracked_begin hb
    have clean : db'.cleanup.1 = 0 := by
      rw [Database.cleanup_eq, List.countP_eq_zero, tracked]
      intro t mem
      rcases List.mem_append.mp mem with mem | mem
      · simpa using (List.mem_filter.mp mem).2
      · rw [List.mem_singleton.mp mem]
        simpa using opened
    simp [same, clean, Except.toBool]

/-- Whatever is begun, finished, dropped and asked, each open root is listed under its name, which no
other root has. The table is exact when nothing is there to clean up: after every question that prunes
it and after every begin, save for one that fails while a root that is over is still in the table. The
answers about open roots never depend on that, and no other answer depends on the table at all: no root
and no connection is kept for it. -/
theorem listed_exactly (server : Server) (settings : Settings) (actions : List Action)
    (fresh : ((start server settings).steps actions).issued.Nodup) :
    let run := (start server settings).steps actions
    let db := run.db
    (∀ ref ∈ run.live, (db.name ref, ref) ∈ db.tracked) ∧
      (db.tracked.Perm run.listed ↔ db.cleanup.1 = 0) ∧
      (db.prune.tracked.Perm run.listed ∧ db.cleanup.2 = db.prune ∧ db.activeCount.2 = db.prune ∧
        db.active.2 = db.prune) ∧
      ((run.step .begin).db.tracked.Perm (run.step .begin).listed ↔
        db.begin.1.toBool = true ∨ db.cleanup.1 = 0) ∧
      db.activeCount.1 = run.live.length ∧
      (db.active.1.Perm (run.live.map fun ref => (db.transaction ref).snapshot) ∧
        (db.active.1.Pairwise fun a b => a.id < b.id) ∧
        ∀ info ∈ db.active.1, info.finalized = false) ∧
      (∀ id, (db.isActive id = true ↔ ∃ ref ∈ run.live, db.name ref = id) ∧
        db.prune.isActive id = db.isActive id ∧ (id ∉ run.issued → db.isActive id = false)) ∧
      (db.cleanup.1 = (db.tracked.countP fun t => !db.isOpen t.2) ∧ db.cleanup.2.cleanup.1 = 0) ∧
      (∀ ref ∈ run.begunRoots, db.handles ref = 0 → (db.transaction ref).carrier = none) ∧
      ∀ later (action : Action),
        Database.Agree (action.perform (db.forget.after later)) (action.perform (db.after later)) := by
  intro run db
  have tracking : run.Tracking := start_tracking server settings actions
  have named : run.Named := start_named server settings actions
  have pruned := prune_perm tracking named
  have listing := active_perm tracking named
  have active := isActive_iff tracking named fresh
  refine ⟨fun ref => mem_tracked_of_live tracking named, tracked_perm_iff tracking named,
    ⟨pruned, rfl, rfl, rfl⟩, ?_, ?_, ⟨listing, active_sorted tracking named fresh, ?_⟩,
    fun id => ⟨active id, ?_, fun unknown => ?_⟩, ⟨db.cleanup_eq, ?_⟩, ?_,
    fun later action => action.agree (db.after_forget later)⟩
  · have effect := ((start_consistent server settings).steps actions).backed.effect .begin
    rw [tracked_perm_iff (tracking.step .begin) (named.step tracking effect)]
    exact cleanup_begin run
  · have same := pruned.length_eq
    rwa [listed, List.length_map] at same
  · intro info mem
    obtain ⟨ref, isLive, rfl⟩ := List.mem_map.mp (listing.mem_iff.mp mem)
    have opened := (mem_live.mp isLive).1
    obtain ⟨entry, known⟩ := Database.exists_of_isOpen opened
    have some := ((Database.isOpen_iff known).mp opened).2
    rw [Database.transaction_of_known known]
    exact Option.isNone_eq_false_iff.mpr (Option.isSome_iff_ne_none.mpr some)
  · have effect := ((start_consistent server settings).steps actions).backed.effect .prune
    have active' := isActive_iff (tracking.step .prune) (named.step tracking effect) fresh id
    exact Bool.eq_iff_iff.mpr (active'.trans (active id).symm)
  · apply Bool.eq_false_iff.mpr
    intro opened
    obtain ⟨ref, mem, rfl⟩ := (active id).mp opened
    exact unknown (List.mem_map_of_mem (List.mem_filter.mp mem).1)
  · show db.prune.tracked.length - db.prune.prune.tracked.length = 0
    rw [db.prune_prune, Nat.sub_self]
  · intro ref mem unused
    obtain ⟨below, begun⟩ := mem_begunRoots.mp mem
    have known := List.getElem?_eq_getElem below
    rw [Database.handles_of_known known] at unused
    rw [Database.transaction_of_known known]
    exact (start_owning server settings actions ref _ known begun).unused unused

theorem listed_but_committed :
    let run := (start .empty .standard).steps [.begin, .begin, .begin, .call 0 .commit [], .drop 2]
    run.issued.Nodup ∧ run.live = [1] ∧ run.db.cleanup.1 = 2 ∧ run.db.activeCount.1 = 1 ∧
      ∀ id, run.db.isActive id = true ↔ ∃ ref ∈ run.live, run.db.name ref = id := by
  intro run
  have fresh : run.issued.Nodup := by decide +kernel
  obtain ⟨_, _, _, _, count, _, active, _⟩ := listed_exactly .empty .standard _ fresh
  have live : run.live = [1] := by decide +kernel
  refine ⟨fresh, live, by decide +kernel, ?_, fun id => (active id).1⟩
  rw [count]
  exact congrArg List.length live

/-- A begin that fails leaves the table as it was, with the root that was committed before. -/
theorem unpruned_begin :
    let run := (start .empty .standard).steps
      [.begin, .call 0 .commit [], .setFaults ⟨0, false, true, false, false⟩]
    let run' := run.step .begin
    run.issued.Nodup ∧ (Action.begin.perform run.db).1.toBool = false ∧ run'.live = [] ∧
      run'.db.tracked = [("00000000000000000000000000", 0)] ∧ run'.db.cleanup.1 = 1 ∧
      ¬ run'.db.tracked.Perm run'.listed := by
  decide +kernel

end Run

end NestedTx
