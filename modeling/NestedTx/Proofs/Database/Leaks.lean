import NestedTx.Proofs.Database.Alarms
import NestedTx.Proofs.Database.Finality
import NestedTx.Proofs.Transaction.Watching

namespace NestedTx

theorem Entry.Use.watched {entry entry' : Entry} (use : entry.Use entry')
    (h : entry.transaction.Watched) : entry'.transaction.Watched := by
  cases use with
  | called held call backend => exact h.guards (.perform _ call backend)
  | retained | dropped => exact h
  | abandoned backend => exact h.guards (.abandon _ backend)
  | expired => exact h.expire

theorem Entry.Use.staysExpired {entry entry' : Entry} (use : entry.Use entry')
    (h : entry.transaction.watchdog = .expired) : entry'.transaction.watchdog = .expired := by
  cases use with
  | called held call backend => exact (Transaction.Guards.perform _ call backend).expired h
  | retained | dropped => exact h
  | abandoned backend => exact (Transaction.Guards.abandon _ backend).expired h
  | expired =>
    rw [Transaction.expire_of_unarmed (by rw [h]; nofun)]
    exact h

theorem Database.Roots.watched {entries entries' : List Entry} (roots : Roots entries entries')
    (h : ∀ entry ∈ entries, entry.transaction.Watched) :
    ∀ entry ∈ entries', entry.transaction.Watched :=
  roots.all Entry.Use.watched Transaction.root_watched h

namespace Run

variable {run : Run} {before : List String}

theorem Consistent.expired_steps (h : run.Consistent before) {ref : Nat} {entry : Entry}
    (known : run.db.entries[ref]? = some entry) (expired : entry.transaction.watchdog = .expired)
    (actions : List Action) : ∃ entry', (run.steps actions).db.entries[ref]? = some entry' ∧
      entry'.transaction.watchdog = .expired :=
  h.stays_steps Entry.Use.staysExpired known expired actions

theorem start_watched (server : Server) (settings : Settings) (actions : List Action) :
    ∀ entry ∈ ((start server settings).steps actions).db.entries, entry.transaction.Watched :=
  start_all Entry.Use.watched Transaction.root_watched server settings actions

end Run

namespace Database

variable {db db' : Database} {ref : Nat} {entry : Entry}

def Quiet (db db' : Database) : Prop :=
  ∃ raised, db'.alarms = db.alarms ++ raised ∧ ∀ alarm ∈ raised, alarm.kind ≠ .leak

theorem Quiet.of_eq (same : db'.alarms = db.alarms) : db.Quiet db' := ⟨[], by simp [same], nofun⟩

theorem Quiet.raise (alarm : Alarm) (other : alarm.kind ≠ .leak)
    (raised : db'.alarms = db.alarms ++ [alarm]) : db.Quiet db' := by
  refine ⟨[alarm], raised, fun alarm' mem => ?_⟩
  cases List.mem_singleton.mp mem
  exact other

theorem exit_kind_ne (failed : FailedExit) : (Alarm.exit failed).kind ≠ .leak := by
  simp only [Alarm.kind]
  cases failed.action <;> nofun

theorem begin_quiet (db : Database) : db.Quiet db.begin.2 := by
  rcases db.begin_outcome with ⟨ref, db', begun, same⟩ | ⟨cause, db', refused, raised⟩
  · rw [begun]
    exact .of_eq same
  · rw [refused]
    split at raised
    · exact .raise (.beginFailed cause) (by simp [Alarm.kind]) raised
    · exact .of_eq (raised.trans (List.append_nil _))

theorem exit_quiet (action : ExitAction) (ref : Nat) (db : Database) :
    db.Quiet (db.exit action ref).2 := by
  simp only [exit]
  rcases (db.transaction ref).exit action db.backend with ⟨failed | _, tx, backend⟩
  · dsimp only
    split
    · exact .raise (.exit failed) (exit_kind_ne failed) rfl
    · exact .of_eq rfl
  · exact .of_eq rfl

end Database

namespace Action

open Database

theorem quiet_of_unexpired {action : Action} (unexpired : ∀ ref openFor, action ≠ .expire ref openFor)
    (db : Database) : db.Quiet (action.perform db).2 := by
  cases silent : action.silent with
  | true => exact .of_eq (alarms_of_silent silent db)
  | false =>
    cases action with
    | begin => exact db.begin_quiet
    | expire ref openFor => exact absurd rfl (unexpired ref openFor)
    | call ref call params =>
      simp only [perform]
      split
      · cases call with
        | exit action => exact db.exit_quiet action ref
        | _ => cases silent
      · exact .of_eq rfl
    | _ => cases silent

variable {action : Action} {db : Database} {ref : Nat}

theorem leaked_of_root (about : action.root? = some ref)
    (unexpired : ∀ openFor, action ≠ .expire ref openFor) :
    ((action.perform db).2.transaction ref).leaked = (db.transaction ref).leaked := by
  cases known : db.entries[ref]? with
  | none => rw [perform_of_unknown about known]
  | some entry =>
    obtain ⟨hlt, _⟩ := List.getElem?_eq_some_iff.mp known
    have set {db' : Database} {entry' : Entry} (he : db'.entries = db.entries.set ref entry')
        (same : entry'.transaction.leaked = entry.transaction.leaked) :
        (db'.transaction ref).leaked = (db.transaction ref).leaked := by
      rw [transaction_of_known known, transaction_of_known (by rw [he, List.getElem?_set_self hlt]), same]
    cases action with
    | call ref' call params =>
      cases about
      simp only [perform, Database.tell]
      split
      · obtain ⟨alarms, did⟩ := perform_eq known call params
        exact set (by rw [did]) (Transaction.Guards.perform _ call db.backend).leaked
      · rfl
    | retain ref' =>
      cases about
      simp only [perform]
      split
      · exact set (modify_of_known known _) rfl
      · rfl
    | drop ref' =>
      cases about
      simp only [perform, Database.drop, known]
      split
      · rfl
      · exact set rfl (Transaction.Guards.abandon _ db.backend).leaked
      · exact set rfl rfl
    | expire ref' openFor =>
      cases about
      exact absurd rfl (unexpired openFor)
    | _ => cases about

theorem leaked_of_other (other : action.root? ≠ some ref) :
    ((action.perform db).2.transaction ref).leaked = (db.transaction ref).leaked := by
  cases known : db.entries[ref]? with
  | some entry => rw [transaction_of_known known, transaction_of_known (entries_other other known)]
  | none =>
    have before : (db.transaction ref).leaked = false := by simp [transaction, known, Transaction.ended]
    have unknown {entries : List Entry} (same : entries.length = db.entries.length) :
        entries[ref]? = none := by
      rw [List.getElem?_eq_none_iff] at known ⊢
      omega
    rw [before]
    cases after : (action.perform db).2.entries[ref]? with
    | none => simp [transaction, after, Transaction.ended]
    | some entry =>
      rw [transaction_of_known after]
      cases about : action.root? with
      | some ref' =>
        rcases entries_of_root about db with same | ⟨entry', set⟩
        · cases (unknown (by rw [same])).symm.trans after
        · cases (unknown (by rw [set, List.length_set])).symm.trans after
      | none =>
        rcases entries_of_rootless about db with same | ⟨id, carrier, settings, grown⟩
        · cases (unknown (by rw [same])).symm.trans after
        · rw [grown, List.getElem?_append_right (List.getElem?_eq_none_iff.mp known),
            List.getElem?_singleton] at after
          split at after
          · cases after
            rfl
          · cases after

end Action

namespace Database

variable {db : Database} {ref : Nat} {entry : Entry}

def found (ref openFor : Nat) (db : Database) : List Alarm :=
  if db.isHeld ref && (db.transaction ref).leaksNow then [.leak (db.transaction ref).id openFor]
  else []

theorem expire_unheld (unheld : db.isHeld ref = false) (openFor : Nat) : db.expire ref openFor = db := by
  simp only [expire]
  cases known : db.entries[ref]? with
  | none => rfl
  | some entry =>
    have none : entry.handles = 0 := by simpa [isHeld, known] using unheld
    simp only [none, ↓reduceIte]

theorem expire_held (known : db.entries[ref]? = some entry) (held : 0 < entry.handles)
    (openFor : Nat) : db.expire ref openFor =
      { db with
        entries := db.entries.set ref { entry with transaction := entry.transaction.expire }
        alarms := db.alarms ++ db.found ref openFor } := by
  have isHeld : db.isHeld ref = true := by simpa [isHeld, known] using held
  simp only [expire, known, Nat.ne_of_gt held, ↓reduceIte, found, isHeld, Bool.true_and,
    transaction_of_known known, setTransaction, modify_of_known known]
  split
  · rfl
  · rw [List.append_nil]

theorem found_unheld (unheld : db.isHeld ref = false) (openFor : Nat) : db.found ref openFor = [] := by
  simp [found, unheld]

theorem expire_unarmed (known : db.entries[ref]? = some entry)
    (unarmed : entry.transaction.watchdog ≠ .armed) (openFor : Nat) : db.expire ref openFor = db := by
  cases held : db.isHeld ref with
  | false => exact expire_unheld held openFor
  | true =>
    obtain ⟨entry', known', handles⟩ := exists_of_isHeld held
    cases known.symm.trans known'
    have none : db.found ref openFor = [] := by
      simp [found, transaction_of_known known, Transaction.leaksNow, unarmed]
    rw [expire_held known handles, Transaction.expire_of_unarmed unarmed, none, set_known known,
      List.append_nil]

theorem alarms_expire (ref openFor : Nat) (db : Database) :
    (db.expire ref openFor).alarms = db.alarms ++ db.found ref openFor := by
  cases held : db.isHeld ref with
  | false => rw [expire_unheld held, found_unheld held, List.append_nil]
  | true =>
    obtain ⟨entry, known, handles⟩ := exists_of_isHeld held
    rw [expire_held known handles]

theorem expire_changes (ref openFor : Nat) (db : Database) : ∃ watchdog leaked raised,
    db.expire ref openFor =
      { db with
        entries := db.entries.modify ref fun entry =>
          { entry with transaction := { entry.transaction with watchdog, leaked } }
        alarms := db.alarms ++ raised } := by
  cases held : db.isHeld ref with
  | false =>
    refine ⟨(db.transaction ref).watchdog, (db.transaction ref).leaked, [], ?_⟩
    rw [expire_unheld held, List.append_nil]
    cases known : db.entries[ref]? with
    | none => rw [List.modify_eq_self (List.getElem?_eq_none_iff.mp known)]
    | some entry => rw [modify_of_known known, transaction_of_known known, set_known known]
  | true =>
    obtain ⟨entry, known, handles⟩ := exists_of_isHeld held
    refine ⟨entry.transaction.expire.watchdog, entry.transaction.expire.leaked,
      db.found ref openFor, ?_⟩
    rw [expire_held known handles, modify_of_known known, ← entry.transaction.expire_marks]

end Database

namespace Run

variable {run : Run} {ref : Nat} {action : Action}

def raised (run : Run) (action : Action) : List Alarm :=
  (run.step action).db.alarms.drop run.db.alarms.length

def leaks (ref : Nat) : Run → List Action → List Alarm
  | _, [] => []
  | run, action :: actions =>
    (if action.root? = some ref then (run.raised action).filter fun alarm => alarm.kind = .leak
      else []) ++ leaks ref (run.step action) actions

theorem raised_expire (run : Run) (ref openFor : Nat) :
    run.raised (.expire ref openFor) = run.db.found ref openFor := by
  rw [raised, db_step, Action.perform, Database.alarms_expire, List.drop_left]

theorem raised_unexpired (unexpired : ∀ ref openFor, action ≠ .expire ref openFor) :
    ∀ alarm ∈ run.raised action, alarm.kind ≠ .leak := by
  obtain ⟨raised, he, quiet⟩ := Action.quiet_of_unexpired unexpired run.db
  rw [Run.raised, db_step, he, List.drop_left]
  exact quiet

theorem leaked_step (watched : ∀ entry ∈ run.db.entries, entry.transaction.Watched) (ref : Nat)
    (action : Action) : ((run.step action).db.transaction ref).leaked.toNat =
      (run.db.transaction ref).leaked.toNat + (run.leaks ref [action]).length := by
  simp only [leaks, List.append_nil, db_step]
  by_cases about : action.root? = some ref
  · rw [if_pos about]
    by_cases expires : ∃ openFor, action = .expire ref openFor
    · obtain ⟨openFor, rfl⟩ := expires
      rw [raised_expire, Action.perform]
      cases held : run.db.isHeld ref with
      | false => simp [Database.expire_unheld held, Database.found_unheld held]
      | true =>
        obtain ⟨entry, known, handles⟩ := Database.exists_of_isHeld held
        have after := Database.transaction_of_known (Database.expire_known known openFor).2
        rw [if_neg (Nat.ne_of_gt handles)] at after
        rw [after, Transaction.leaked_expire, Database.transaction_of_known known, Database.found, held,
          Database.transaction_of_known known]
        cases leaks : entry.transaction.leaksNow with
        | false => simp
        | true =>
          -- Whoever is found now was not found before, which is why it happens once.
          have before := (watched entry (List.mem_of_getElem? known)).leaked_eq_false leaks
          simp [before, Alarm.kind]
    · have unexpired (ref' openFor : Nat) : action ≠ .expire ref' openFor := by
        rintro rfl
        cases about
        exact expires ⟨openFor, rfl⟩
      have none : (run.raised action).filter (fun alarm => alarm.kind = .leak) = [] := by
        rw [List.filter_eq_nil_iff]
        intro alarm mem
        simpa using raised_unexpired unexpired alarm mem
      rw [none, Action.leaked_of_root about (unexpired ref), List.length_nil, Nat.add_zero]
  · rw [if_neg about, Action.leaked_of_other about, List.length_nil, Nat.add_zero]

theorem leaks_cons (run : Run) (ref : Nat) (action : Action) (actions : List Action) :
    run.leaks ref (action :: actions) =
      run.leaks ref [action] ++ (run.step action).leaks ref actions := by
  simp [leaks]

theorem Consistent.leaked_steps {before : List String} (h : run.Consistent before)
    (watched : ∀ entry ∈ run.db.entries, entry.transaction.Watched) (ref : Nat)
    (actions : List Action) : ((run.steps actions).db.transaction ref).leaked.toNat =
      (run.db.transaction ref).leaked.toNat + (run.leaks ref actions).length := by
  induction actions generalizing run with
  | nil => rfl
  | cons action actions ih =>
    have effect := h.backed.effect action
    have later := ih (h.effect effect) (effect.roots.watched watched)
    rw [leaked_step watched] at later
    rw [leaks_cons, List.length_append, ← Nat.add_assoc]
    exact later

theorem leak_of_raised (watched : ∀ entry ∈ run.db.entries, entry.transaction.Watched) {alarm : Alarm}
    (mem : alarm ∈ run.raised action) (leak : alarm.kind = .leak) : ∃ ref openFor,
      action = .expire ref openFor ∧ alarm = .leak (run.db.transaction ref).id openFor ∧
        run.db.isHeld ref = true ∧ (run.db.transaction ref).settings.strict = true ∧
        (run.db.transaction ref).isFinalized = false := by
  by_cases expires : ∃ ref openFor, action = .expire ref openFor
  · obtain ⟨ref, openFor, rfl⟩ := expires
    rw [raised_expire, Database.found] at mem
    split at mem
    · rename_i due
      obtain ⟨held, leaks⟩ := (Bool.and_eq_true _ _).mp due
      obtain ⟨entry, known, handles⟩ := Database.exists_of_isHeld held
      rw [Database.transaction_of_known known] at leaks
      obtain ⟨strict, opened⟩ := (watched entry (List.mem_of_getElem? known)).of_leaksNow leaks
      refine ⟨ref, openFor, rfl, List.mem_singleton.mp mem, held, ?_⟩
      rw [Database.transaction_of_known known]
      exact ⟨strict, opened⟩
    · cases mem
  · have unexpired (ref openFor : Nat) : action ≠ .expire ref openFor :=
      fun he => expires ⟨ref, openFor, he⟩
    exact absurd leak (raised_unexpired unexpired alarm mem)

theorem step_expire_of_ended (watched : ∀ entry ∈ run.db.entries, entry.transaction.Watched)
    (ended : run.db.isHeld ref = false ∨ (run.db.transaction ref).isFinalized = true)
    (openFor : Nat) : run.step (.expire ref openFor) = run := by
  have same : run.db.expire ref openFor = run.db := by
    cases held : run.db.isHeld ref with
    | false => exact Database.expire_unheld held openFor
    | true =>
      obtain ⟨entry, known, _⟩ := Database.exists_of_isHeld held
      rw [held, Database.transaction_of_known known] at ended
      have finalized := ended.resolve_left nofun
      have unarmed := (watched entry (List.mem_of_getElem? known)).unarmed_of_finalized finalized
      exact Database.expire_unarmed known unarmed openFor
  calc run.step (.expire ref openFor)
    _ = { run with db := run.db.expire ref openFor } := rfl
    _ = run := by rw [same]

theorem start_leaked (server : Server) (settings : Settings) (ref : Nat) (actions : List Action) :
    (((start server settings).steps actions).db.transaction ref).leaked.toNat =
      ((start server settings).leaks ref actions).length := by
  have steps := (start_consistent server settings).leaked_steps (by simp [start, Database.on]) ref
    actions
  have nothing : ((start server settings).db.transaction ref).leaked = false := by
    simp [start, Database.on, Database.transaction, Transaction.ended]
  rw [nothing, Bool.toNat_false, Nat.zero_add] at steps
  exact steps

/-- A transaction is found forgotten once at most, only while it is held, strict and open, and from then
on it is known to have been. An expiry finds nothing when the transaction was ended or let go of, and
does nothing else in any case. -/
theorem leaks_of_steps (server : Server) (settings : Settings) (ref : Nat) (actions : List Action) :
    let begun := start server settings
    let run := begun.steps actions
    (begun.leaks ref actions).length ≤ 1 ∧
      ((run.db.transaction ref).leaked = true ↔ begun.leaks ref actions ≠ []) ∧
      (∀ action, ∀ alarm ∈ run.raised action, alarm.kind = .leak → ∃ ref openFor,
        action = .expire ref openFor ∧ alarm = .leak (run.db.transaction ref).id openFor ∧
          run.db.isHeld ref = true ∧ (run.db.transaction ref).settings.strict = true ∧
          (run.db.transaction ref).isFinalized = false) ∧
      (run.db.isHeld ref = false ∨ (run.db.transaction ref).isFinalized = true →
        ∀ openFor, run.step (.expire ref openFor) = run) ∧
      (run.db.isHeld ref = true → (run.db.transaction ref).isFinalized = true → ∀ watchdog,
        ({ run.db.transaction ref with watchdog } : Transaction).leaksNow = false) ∧
      ∀ openFor, ∃ watchdog leaked raised, run.step (.expire ref openFor) =
        { run with
          db := { run.db with
            entries := run.db.entries.modify ref fun entry =>
              { entry with transaction := { entry.transaction with watchdog, leaked } }
            alarms := run.db.alarms ++ raised } } := by
  intro begun run
  have watched : ∀ entry ∈ run.db.entries, entry.transaction.Watched :=
    start_watched server settings actions
  have sound : ∀ entry ∈ run.db.entries, 0 < entry.handles → entry.transaction.Sound :=
    start_sound server settings actions
  have count : (run.db.transaction ref).leaked.toNat = (begun.leaks ref actions).length :=
    start_leaked server settings ref actions
  refine ⟨?_, ?_, ?_, ?_, ?_, ?_⟩
  · rw [← count]
    exact Bool.toNat_le _
  · rw [ne_eq, ← List.length_eq_zero_iff, ← count]
    cases (run.db.transaction ref).leaked <;> simp
  · intro action alarm mem leak
    exact leak_of_raised watched mem leak
  · intro ended openFor
    exact step_expire_of_ended watched ended openFor
  · intro held finalized watchdog
    obtain ⟨entry, known, handles⟩ := Database.exists_of_isHeld held
    rw [Database.transaction_of_known known] at finalized ⊢
    exact (sound entry (List.mem_of_getElem? known) handles).leaksNow_of_finalized finalized watchdog
  · intro openFor
    obtain ⟨watchdog, leaked, raised, he⟩ := run.db.expire_changes ref openFor
    refine ⟨watchdog, leaked, raised, ?_⟩
    calc run.step (.expire ref openFor)
      _ = { run with db := run.db.expire ref openFor } := rfl
      _ = _ := by rw [he]

/-- The watchdog of an open transaction tells from the innermost level whether the transaction was
forgotten. It goes off once, so what it does not find then is not found later. -/
theorem expiry_of_open {server : Server} {settings : Settings} {actions : List Action}
    (reached : (start server settings).steps actions = run) (held : run.db.isHeld ref = true)
    (strict : (run.db.transaction ref).settings.strict = true)
    (opened : (run.db.transaction ref).isFinalized = false)
    (waiting : (run.db.transaction ref).watchdog ≠ .expired) (openFor : Nat) :
    let pending := (run.db.transaction ref).status.isPending
    let after := run.step (.expire ref openFor)
    run.raised (.expire ref openFor) =
        (if pending then [.leak (run.db.transaction ref).id openFor] else []) ∧
      (after.db.transaction ref).leaked = pending ∧
      ∀ later openFor', (after.steps later).raised (.expire ref openFor') = [] := by
  subst reached
  obtain ⟨entry, known, handles⟩ := Database.exists_of_isHeld held
  have mem := List.mem_of_getElem? known
  have watched := start_watched server settings actions entry mem
  have sound := start_sound server settings actions entry mem handles
  have known' := (Database.expire_known known openFor).2
  rw [if_neg (Nat.ne_of_gt handles)] at known'
  rw [Database.transaction_of_known known] at strict opened waiting ⊢
  intro pending after
  have armed := (watched.guarded strict opened).resolve_right waiting
  have leaks : entry.transaction.leaksNow = pending := sound.leaksNow_of_open opened armed
  refine ⟨?_, ?_, fun later openFor' => ?_⟩
  · rw [raised_expire, Database.found, held, Database.transaction_of_known known, Bool.true_and, leaks]
  · have unspent : entry.transaction.leaked = false :=
      Bool.eq_false_iff.mpr fun leaked => waiting (watched.spent leaked)
    rw [db_step, Action.perform, Database.transaction_of_known known', Transaction.leaked_expire,
      unspent, leaks, Bool.false_or]
  · have consistent := (start_consistent server settings).steps (actions ++ [.expire ref openFor])
    rw [steps_append] at consistent
    have spent := consistent.expired_steps known' (Transaction.watchdog_expire armed) later
    obtain ⟨entry', known'', expired⟩ : ∃ entry', (after.steps later).db.entries[ref]? = some entry' ∧
      entry'.transaction.watchdog = .expired := spent
    have unarmed : ((after.steps later).db.transaction ref).leaksNow = false := by
      rw [Database.transaction_of_known known'']
      simp [Transaction.leaksNow, expired]
    rw [raised_expire, Database.found, unarmed, Bool.and_false]
    rfl

theorem expiry_of_begun :
    let run := (start .empty (Settings.standard.withStrict true)).steps [.begin]
    run.raised (.expire 0 61) = [.leak (run.db.transaction 0).id 61] ∧
      ((run.step (.expire 0 61)).db.transaction 0).leaked = true ∧
      ∀ later openFor, ((run.step (.expire 0 61)).steps later).raised (.expire 0 openFor) = [] := by
  intro run
  have held : run.db.isHeld 0 = true := by decide +kernel
  have strict : (run.db.transaction 0).settings.strict = true := by decide +kernel
  have opened : (run.db.transaction 0).isFinalized = false := by decide +kernel
  have waiting : (run.db.transaction 0).watchdog ≠ .expired := by decide +kernel
  exact expiry_of_open rfl held strict opened waiting 61

/-- A nested level was committed and not left: the transaction is open, held and strict, and its watchdog
finds nothing. -/
theorem expiry_missed :
    let run := (start .empty (Settings.standard.withStrict true)).steps
      [.begin, .call 0 .begin [], .call 0 .commit []]
    run.db.isHeld 0 = true ∧ (run.db.transaction 0).settings.strict = true ∧
      (run.db.transaction 0).isFinalized = false ∧ (run.db.transaction 0).watchdog = .armed ∧
      run.raised (.expire 0 61) = [] ∧
      ((run.step (.expire 0 61)).db.transaction 0).leaked = false := by
  decide +kernel

end Run

end NestedTx
