import NestedTx.Proofs.Database.Roots
import NestedTx.Proofs.Database.Untouched
import NestedTx.Proofs.Lending

namespace NestedTx

namespace Transaction

variable {tx tx' : Transaction} {backend backend' : Backend}

def Carries (tx tx' : Transaction) : Prop :=
  ∀ carrier', tx'.carrier = some carrier' → ∃ carrier, tx.carrier = some carrier ∧
    carrier'.done = carrier.done ∧ carrier'.number? = carrier.number?

theorem Carries.of_eq (same : tx'.carrier = tx.carrier) : Carries tx tx' := by
  intro carrier hc
  exact ⟨carrier, same ▸ hc, rfl, rfl⟩

theorem Attempt.carries {action : ExitAction} {result : Except DriverError Unit}
    (attempt : Attempt action tx backend result tx' backend') : Carries tx tx' := by
  cases attempt with
  | missing none => exact .of_eq rfl
  | @refused carrier carrier' _ _ some finish =>
    have number := (@ServerTransaction.finish_flow [] action carrier backend).2
    rw [finish] at number
    rintro _ ⟨⟩
    exact ⟨carrier, some, ServerTransaction.done_of_finish finish, number⟩
  | done some finish =>
    intro carrier hc
    rw [settle_carrier] at hc
    cases hc

theorem Step.carries {call : Call} {answer : Except TransactionError Unit}
    (step : Step tx backend call answer tx' backend') : Carries tx tx' := by
  cases step with
  | lateForAll | lateForRoot | lateForLevel | lateForCommit | barred | closed | fetched | entered
  | noted => exact .of_eq rfl
  | left => exact .of_eq (pop_carrier tx)
  | committing undecided root attempt => exact attempt.carries
  | rollingBack whole uncommitted attempt => exact attempt.carries
  | leaving whole uncommitted root attempt =>
    intro carrier hc
    rw [pop_carrier] at hc
    exact attempt.carries carrier hc
  | @executed carrier carrier' sql _ _ some free run =>
    have number := (@ServerTransaction.execute_flow [] sql carrier backend).2
    rw [run] at number
    rintro _ ⟨⟩
    exact ⟨carrier, some, ServerTransaction.done_of_execute run, number⟩

end Transaction

theorem Transaction.carrier_abandon (tx : Transaction) (backend : Backend) :
    (tx.abandon backend).1.carrier = none := by
  unfold abandon
  split
  · assumption
  · rfl

theorem Transaction.carrier_expire (tx : Transaction) : tx.expire.carrier = tx.carrier := by
  unfold expire
  split <;> rfl

namespace Entry

variable {entry entry' : Entry}

structure Ages (entry entry' : Entry) : Prop where
  carries : entry.transaction.Carries entry'.transaction
  held : 0 < entry'.handles → 0 < entry.handles
  unused : entry'.handles = 0 → entry.handles = 0 ∨ entry'.transaction.carrier = none

structure Own (entry : Entry) : Prop where
  unspent : ∀ carrier, entry.transaction.carrier = some carrier → carrier.done = false
  pooled : ∀ carrier, entry.transaction.carrier = some carrier → carrier.number?.isSome = true
  unused : entry.handles = 0 → entry.transaction.carrier = none

theorem Ages.refl (entry : Entry) : entry.Ages entry := ⟨.of_eq rfl, id, .inl⟩

theorem Ages.carrier_eq_none (h : entry.Ages entry') (spent : entry.transaction.carrier = none) :
    entry'.transaction.carrier = none := by
  cases hc : entry'.transaction.carrier with
  | none => rfl
  | some carrier' =>
    obtain ⟨carrier, some, _⟩ := h.carries carrier' hc
    cases spent.symm.trans some

theorem Own.ages (h : entry.Own) (ages : entry.Ages entry') : entry'.Own where
  unspent carrier' hc := by
    obtain ⟨carrier, some, done, _⟩ := ages.carries carrier' hc
    rw [done]
    exact h.unspent carrier some
  pooled carrier' hc := by
    obtain ⟨carrier, some, _, number⟩ := ages.carries carrier' hc
    rw [number]
    exact h.pooled carrier some
  unused unused := by
    rcases ages.unused unused with before | spent
    · exact ages.carrier_eq_none (h.unused before)
    · exact spent

end Entry

namespace Action

open Database

variable {action : Action} {ref : Nat} {db : Database} {entry : Entry}

theorem ages_of_root (about : action.root? = some ref) (known : db.entries[ref]? = some entry) :
    ∃ entry', (action.perform db).2.entries[ref]? = some entry' ∧ entry.Ages entry' := by
  obtain ⟨hlt, _⟩ := List.getElem?_eq_some_iff.mp known
  have same : ∃ entry', db.entries[ref]? = some entry' ∧ entry.Ages entry' :=
    ⟨entry, known, .refl entry⟩
  have set (entry' : Entry) (ages : entry.Ages entry') {entries : List Entry}
      (he : entries = db.entries.set ref entry') :
      ∃ entry'', entries[ref]? = some entry'' ∧ entry.Ages entry'' :=
    ⟨entry', by rw [he, List.getElem?_set_self hlt], ages⟩
  cases action with
  | call ref' call params =>
    cases about
    simp only [perform]
    split
    · rename_i held
      obtain ⟨_, known', more⟩ := exists_of_isHeld held
      cases known.symm.trans known'
      have step := entry.transaction.perform_step db.backend call
      obtain ⟨alarms, did⟩ := perform_eq known call params
      have ages : entry.Ages ⟨(call.perform entry.transaction db.backend).2.1,
          entry.handles + call.handles (call.perform entry.transaction db.backend).1⟩ := by
        refine ⟨step.carries, fun _ => more, fun none => ?_⟩
        dsimp only at none
        omega
      exact set _ ages (by rw [did]; rfl)
    · exact same
  | retain ref' =>
    cases about
    simp only [perform]
    split
    · rename_i held
      obtain ⟨_, known', more⟩ := exists_of_isHeld held
      cases known.symm.trans known'
      have ages : entry.Ages ⟨entry.transaction, entry.handles + 1⟩ :=
        ⟨.of_eq rfl, fun _ => more, fun none => absurd none (Nat.succ_ne_zero _)⟩
      exact set _ ages (modify_of_known known _)
    · exact same
  | drop ref' =>
    cases about
    simp only [perform, Database.drop, known]
    split
    · exact same
    · have spent := entry.transaction.carrier_abandon db.backend
      have ages : entry.Ages ⟨(entry.transaction.abandon db.backend).1, 0⟩ := by
        refine ⟨fun carrier hc => ?_, fun held => absurd held (Nat.lt_irrefl 0), fun _ => .inr spent⟩
        cases spent.symm.trans hc
      exact set _ ages rfl
    · rename_i handles last more
      have ages : entry.Ages ⟨entry.transaction, handles⟩ := by
        refine ⟨.of_eq rfl, fun _ => ?_, fun none => absurd none last⟩
        omega
      exact set _ ages rfl
  | expire ref' openFor =>
    cases about
    have ages : entry.Ages { entry with transaction := entry.transaction.expire } :=
      ⟨.of_eq entry.transaction.carrier_expire, id, .inl⟩
    simp only [perform, Database.expire, known]
    split
    · exact same
    · split
      · exact set _ ages (modify_of_known known _)
      · exact set _ ages (modify_of_known known _)
  | _ => cases about

theorem ages (action : Action) (known : db.entries[ref]? = some entry) :
    ∃ entry', (action.perform db).2.entries[ref]? = some entry' ∧ entry.Ages entry' := by
  by_cases about : action.root? = some ref
  · exact ages_of_root about known
  · exact ⟨entry, entries_other about known, .refl entry⟩

end Action

theorem Backend.pooled_of_checkout {backend backend' : Backend} {connection : Connection}
    (ok : backend.checkout = (.ok connection, backend')) : connection.number?.isSome = true := by
  simp only [checkout] at ok
  split at ok
  · cases ok
    rfl
  · split at ok
    · cases ok
    · rcases hc : backend.server.connect with ⟨error | link, server⟩
      · rw [hc] at ok
        cases ok
      · rw [hc] at ok
        cases ok
        rfl

theorem ServerTransaction.unspent_of_begin {connection : Connection} {backend backend' : Backend}
    {tx : ServerTransaction} (ok : ServerTransaction.begin connection backend = (.ok tx, backend')) :
    tx.done = false := by
  simp only [ServerTransaction.begin] at ok
  split at ok <;> cases ok
  rfl

structure Database.Unmoved (db db' : Database) : Prop extends db.SameRoots db' where
  connections : db'.connections = db.connections
  serverTransactions : db'.serverTransactions = db.serverTransactions

theorem Database.begin_fresh (db : Database) :
    (∃ error db', db.begin = (.error error, db') ∧ db.Unmoved db') ∨
    ∃ id entry db', db.begin = (.ok db.entries.length, db') ∧ db'.entries = db.entries ++ [entry] ∧
      entry.Own ∧ db'.tracked = (db.tracked.filter fun t => db'.isOpen t.2) ++
        [(id, db.entries.length)] := by
  have refused (cause : DriverError) (backend : Backend) :
      ∃ error db', ({ db with backend } : Database).refuseBegin cause = (.error error, db') ∧
        db.Unmoved db' := by
    refine ⟨_, _, rfl, ?_⟩
    split <;> exact ⟨⟨rfl, rfl⟩, rfl, rfl⟩
  simp only [begin]
  rcases hc : db.backend.checkout with ⟨error | connection, backend⟩
  · exact .inl (refused error backend)
  · have pooled := Backend.pooled_of_checkout hc
    rcases hb : ServerTransaction.begin connection backend with ⟨error | carrier, backend'⟩
    · simp only [hb]
      exact .inl (refused error backend')
    · have number := (@ServerTransaction.begin_flow [] _ _ _ _ hb).2
      simp only [hb]
      refine .inr ⟨_, _, _, rfl, rfl, ⟨?_, ?_, fun none => absurd none Nat.one_ne_zero⟩, rfl⟩
      · rintro _ ⟨⟩
        exact ServerTransaction.unspent_of_begin hb
      · rintro _ ⟨⟩
        rwa [number]

def Event.takesUp (root : Nat) : Event → Bool
  | .takenUp _ other => other = root
  | _ => false

theorem Action.event?_takesUp {action : Action} {result : Except DatabaseError Unit}
    {before after : Database} {event : Event} (seen : action.event? result before after = some event)
    {root : Nat} (takes : event.takesUp root = true) :
    root = before.entries.length ∧ ∃ hand id settings, action = .takeUp hand id settings := by
  have unmarked {holder : Holder} {mark : Mark} : event ≠ .marked holder mark := by
    rintro rfl
    cases takes
  have alone {sql : String} : event ≠ .alone sql := by
    rintro rfl
    cases takes
  cases action with
  | takeUp hand id settings =>
    cases result with
    | error error => cases seen
    | ok _ =>
      cases seen
      exact ⟨(of_decide_eq_true takes).symm, hand, id, settings, rfl⟩
  | call ref call params =>
    obtain ⟨mark, _, rfl⟩ := Option.map_eq_some_iff.mp seen
    exact absurd rfl unmarked
  | drop ref | letGo ref =>
    simp only [event?, loss?] at seen
    split at seen
    · cases seen
      exact absurd rfl unmarked
    · cases seen
  | finish action ref => cases action <;> cases result <;> cases seen <;> exact absurd rfl unmarked
  | execute | executeOn =>
    cases result <;> cases seen
    exact absurd rfl alone
  | serverExecute =>
    cases result <;> cases seen
    exact absurd rfl unmarked
  | _ => cases result <;> cases seen

namespace Run

def tookUp (root : Nat) (run : Run) : Bool := run.history.any (Event.takesUp root)

variable {run : Run} {action : Action} {ref : Nat}

theorem tookUp_step_eq (run : Run) (action : Action) (ref : Nat) : (run.step action).tookUp ref =
    ((action.event? (action.perform run.db).1 run.db (action.perform run.db).2).toList.any
      (Event.takesUp ref) || run.tookUp ref) :=
  List.any_append

theorem tookUp_step (took : run.tookUp ref = true) : (run.step action).tookUp ref = true := by
  rw [tookUp_step_eq, took, Bool.or_true]

theorem tookUp_of_takeUp {hand : Nat} {id : String} {settings : TransactionSettings}
    (grown : (run.step (.takeUp hand id settings)).db.entries ≠ run.db.entries) :
    (run.step (.takeUp hand id settings)).tookUp run.db.entries.length = true := by
  rw [db_step] at grown
  rw [tookUp_step_eq]
  cases kept : run.db.serverTransaction? hand with
  | none => simp [Action.perform, Database.takeUp, kept] at grown
  | some tx => simp [Action.perform, Database.takeUp, kept, Action.event?, Event.takesUp]

theorem tookUp_of_step (took : (run.step action).tookUp ref = true) : run.tookUp ref = true ∨
    ref = run.db.entries.length ∧ ref < (run.step action).db.entries.length ∧
      ∃ hand id settings, action = .takeUp hand id settings := by
  rw [tookUp_step_eq, Bool.or_eq_true] at took
  rcases took with took | took
  · obtain ⟨event, mem, takes⟩ := List.any_eq_true.mp took
    have seen := Option.mem_toList.mp mem
    obtain ⟨rfl, hand, id, settings, rfl⟩ := Action.event?_takesUp seen takes
    refine .inr ⟨rfl, ?_, hand, id, settings, rfl⟩
    rw [db_step]
    cases kept : run.db.serverTransaction? hand with
    | none => simp [Action.perform, Database.takeUp, kept, Action.event?] at seen
    | some tx =>
      simp [Action.perform, Database.takeUp, kept, Database.adopt, Database.forgetServerTransaction]
  · exact .inl took

theorem tookUp_old (old : ref < run.db.entries.length) :
    (run.step action).tookUp ref = run.tookUp ref := by
  apply Bool.eq_iff_iff.mpr
  constructor
  · intro took
    rcases tookUp_of_step took with took | ⟨new, _⟩
    · exact took
    · omega
  · exact tookUp_step

theorem adds_of_longer (longer : run.db.entries.length < (run.step action).db.entries.length) :
    action.adds = true := by
  rw [db_step] at longer
  cases about : action.root? with
  | some root =>
    rcases Action.entries_of_root about run.db with same | ⟨entry', set⟩
    · simp [same] at longer
    · simp [set] at longer
  | none =>
    cases idle : action.adds with
    | false => simp [Action.entries_of_idle about idle] at longer
    | true => rfl

theorem new_root (new : run.db.entries.length ≤ ref) {entry : Entry}
    (known : (run.step action).db.entries[ref]? = some entry) :
    ref = run.db.entries.length ∧
      (action = .begin ∧ entry.Own ∨ (run.step action).tookUp ref = true) := by
  have longer : run.db.entries.length < (run.step action).db.entries.length :=
    Nat.lt_of_le_of_lt new (List.getElem?_eq_some_iff.mp known).1
  have last {entry' : Entry} (grown : (run.step action).db.entries = run.db.entries ++ [entry']) :
      ref = run.db.entries.length ∧ entry = entry' := by
    rw [grown, List.getElem?_append_right new, List.getElem?_singleton] at known
    split at known
    · cases known
      exact ⟨by omega, rfl⟩
    · cases known
  have adds := adds_of_longer longer
  rw [db_step] at longer last
  cases action with
  | begin =>
    rcases run.db.begin_fresh with ⟨_, db', he, unmoved⟩ | ⟨id, entry', db', he, grown, own, _⟩
    · simp [Action.perform, he, Database.tell, unmoved.entries] at longer
    · obtain ⟨here, same⟩ := @last entry' (by simp only [Action.perform, he, Database.tell, grown])
      exact ⟨here, .inl ⟨rfl, same ▸ own⟩⟩
  | takeUp hand id settings =>
    have rootless : (Action.takeUp hand id settings).root? = none := rfl
    rcases Action.entries_of_rootless rootless run.db with same | ⟨_, _, _, grown⟩
    · simp [same] at longer
    · obtain ⟨rfl, _⟩ := last grown
      exact ⟨rfl, .inr (tookUp_of_takeUp (by rw [db_step, grown]; simp))⟩
  | _ => cases adds

def Owning (run : Run) : Prop :=
  ∀ ref entry, run.db.entries[ref]? = some entry → run.tookUp ref = false → entry.Own

theorem Owning.step (h : run.Owning) (action : Action) : (run.step action).Owning := by
  intro ref entry known begun
  cases old : run.db.entries[ref]? with
  | some entry' =>
    have before := (tookUp_old (List.getElem?_eq_some_iff.mp old).1).symm.trans begun
    obtain ⟨entry'', known', ages⟩ := action.ages old
    cases known.symm.trans known'
    exact (h ref entry' old before).ages ages
  | none =>
    rcases (new_root (List.getElem?_eq_none_iff.mp old) known).2 with ⟨_, own⟩ | took
    · exact own
    · cases took.symm.trans begun

theorem start_owning (server : Server) (settings : Settings) (actions : List Action) :
    ((start server settings).steps actions).Owning := by
  have steps {run : Run} (h : run.Owning) : (run.steps actions).Owning := by
    induction actions generalizing run with
    | nil => exact h
    | cons action actions ih => exact ih (h.step action)
  apply steps
  intro ref entry known
  simp [start, Database.on] at known

theorem exists_carrier {server : Server} {settings : Settings} {actions : List Action}
    (reached : (start server settings).steps actions = run) (held : run.db.isHeld ref = true)
    (unfinalized : (run.db.transaction ref).isFinalized = false) :
    ∃ entry carrier, run.db.entries[ref]? = some entry ∧ 0 < entry.handles ∧
      entry.transaction.Sound ∧ entry.transaction.carrier = some carrier ∧
      carrier.Holds (History.statements (.root ref) run.history) ∧
      (run.tookUp ref = false → carrier.done = false) := by
  subst reached
  obtain ⟨entry, known, handles⟩ := Database.exists_of_isHeld held
  rw [Database.transaction_of_known known] at unfinalized
  obtain ⟨carrier, some⟩ : ∃ carrier, entry.transaction.carrier = some carrier :=
    Option.isSome_iff_exists.mp (by simpa [Transaction.isFinalized] using unfinalized)
  have consistent := (start_consistent server settings).steps actions
  refine ⟨entry, carrier, known, handles, ?_, some, ?_, fun begun => ?_⟩
  · exact start_sound server settings actions entry (List.mem_of_getElem? known) handles
  · exact consistent.backed.holds_root known carrier some
  · exact (start_owning server settings actions ref entry known begun).unspent carrier some

theorem exists_live {server : Server} {settings : Settings} {actions : List Action}
    (reached : (start server settings).steps actions = run) (held : run.db.isHeld ref = true)
    (unfinalized : (run.db.transaction ref).isFinalized = false)
    (unspent : run.tookUp ref = true → isLive (run.db.held (.root ref)) = true) :
    ∃ entry carrier, run.db.entries[ref]? = some entry ∧ entry.transaction.Sound ∧
      entry.transaction.carrier = some carrier ∧
      carrier.Holds (History.statements (.root ref) run.history) ∧ carrier.done = false := by
  obtain ⟨entry, carrier, known, _, sound, some, holds, begun⟩ :=
    exists_carrier reached held unfinalized
  refine ⟨entry, carrier, known, sound, some, holds, ?_⟩
  cases took : run.tookUp ref with
  | false => exact begun took
  | true =>
    have live := unspent took
    rw [Database.held_of_known known, some] at live
    simpa [isLive] using live

end Run

end NestedTx
