import NestedTx.Proofs.Console.Actions
import NestedTx.Proofs.Database.Block
import NestedTx.Proofs.Database.Leaks

namespace NestedTx

def TransactionError.cause? : TransactionError → Option DriverError
  | commitFailed cause => some cause
  | rollbackFailed cause => some cause
  | beginFailed cause => some cause
  | _ => none

namespace Action

/-- The alarm that is due for an action, by its answer: a strict database could not begin a transaction,
or a level of a strict transaction could not be left as it should. It shows the transaction as it is
when the answer is there. -/
def due? (action : Action) (db : Database) : Option Alarm :=
  match action, action.perform db with
  | .begin, (.error (.transaction error), _) =>
    if db.settings.strict then error.cause?.map .beginFailed else none
  | .call ref (.exit asked) _, (.error (.transaction error), after) =>
    if (db.transaction ref).settings.strict then
      error.cause?.map fun cause => .exit ⟨asked, cause, (after.transaction ref).snapshot⟩
    else none
  | _, _ => none

end Action

namespace Database

def due : Database → List Action → List Alarm
  | _, [] => []
  | db, action :: actions => (action.due? db).toList ++ due (action.perform db).2 actions

def escalations (db : Database) : List Alarm := db.alarms.filter fun alarm => alarm.kind ≠ .leak

variable {db db' : Database}

theorem escalations_of_eq (same : db'.alarms = db.alarms) : db'.escalations = db.escalations := by
  rw [escalations, escalations, same]

theorem escalations_raised {strict : Bool} {alarm : Alarm} (other : alarm.kind ≠ .leak)
    (raised : db'.alarms = db.alarms ++ if strict then [alarm] else []) :
    db'.escalations = db.escalations ++ (if strict then some alarm else none).toList := by
  rw [escalations, escalations, raised, List.filter_append]
  cases strict <;> simp [other]

end Database

namespace Action

variable {action : Action} {db : Database}

theorem due?_of_silent (silent : action.silent = true) (db : Database) : action.due? db = none := by
  cases action with
  | begin => cases silent
  | call ref call params =>
    cases call with
    | exit => cases silent
    | _ => rfl
  | _ => rfl

theorem due?_of_refused {ref : Nat} {asked : ExitAction} {params : List Json.Value}
    {cause : DriverError} {db' : Database} (held : db.isHeld ref = true)
    (refused : db.exit asked ref = (.error (Transaction.refusal asked cause), db')) :
    (call ref (.exit asked) params).due? db = if (db.transaction ref).settings.strict then
      some (.exit ⟨asked, cause, (db'.transaction ref).snapshot⟩) else none := by
  simp only [due?, perform, held, if_true, Database.tell, Database.perform, refused]
  cases asked <;> rfl

theorem escalations_perform (action : Action) (db : Database) :
    (action.perform db).2.escalations = db.escalations ++ (action.due? db).toList := by
  cases silent : action.silent with
  | true =>
    rw [due?_of_silent silent, Option.toList_none, List.append_nil]
    exact Database.escalations_of_eq (alarms_of_silent silent db)
  | false =>
    cases action with
    | begin =>
      rcases db.begin_outcome with ⟨ref, db', begun, same⟩ | ⟨cause, db', refused, raised⟩
      · simp only [due?, perform, Database.tell, begun]
        rw [Database.escalations_of_eq same]
        exact (List.append_nil _).symm
      · simp only [due?, perform, Database.tell, refused]
        exact Database.escalations_raised (by rintro ⟨⟩) raised
    | expire ref openFor =>
      have leaks : (db.found ref openFor).filter (fun alarm => alarm.kind ≠ .leak) = [] := by
        simp only [Database.found]
        split <;> rfl
      show (db.expire ref openFor).alarms.filter _ = _
      rw [Database.alarms_expire, List.filter_append, leaks]
      rfl
    | call ref call params =>
      cases call with
      | exit asked =>
        cases held : db.isHeld ref with
        | false =>
          simp only [due?, perform, held]
          exact (List.append_nil _).symm
        | true =>
          rcases Database.exit_outcome held asked with
            ⟨db', left, same⟩ | ⟨cause, db', refused, _, raised⟩
          · simp only [due?, perform, held, if_true, Database.tell, Database.perform, left]
            rw [Database.escalations_of_eq same]
            exact (List.append_nil _).symm
          · have after : ((call ref (.exit asked) params).perform db).2 = db' := by
              simp only [perform, held, if_true, Database.tell, Database.perform, refused]
            rw [due?_of_refused held refused, after]
            exact Database.escalations_raised (Database.exit_kind_ne _) raised
      | _ => cases silent
    | _ => cases silent

theorem of_due?_exit {ref : Nat} {asked : ExitAction} {params : List Json.Value} {alarm : Alarm}
    (due : (call ref (.exit asked) params).due? db = some alarm) :
    let after := ((call ref (.exit asked) params).perform db).2
    after.alarms = db.alarms ++ [alarm] ∧
      after.transaction ref = ((db.transaction ref).setStatus .errored).pop ∧
        ∃ cause, alarm = .exit ⟨asked, cause, (after.transaction ref).snapshot⟩ := by
  cases held : db.isHeld ref with
  | false =>
    simp only [due?, perform, held] at due
    cases due
  | true =>
    rcases Database.exit_outcome held asked with ⟨db', left, _⟩ | ⟨cause, db', refused, left, raised⟩
    · simp only [due?, perform, held, if_true, Database.tell, Database.perform, left] at due
      cases due
    · have after : ((call ref (.exit asked) params).perform db).2 = db' := by
        simp only [perform, held, if_true, Database.tell, Database.perform, refused]
      rw [due?_of_refused held refused] at due
      rw [after]
      split at due
      · rename_i strict
        cases due
        rw [strict] at raised
        exact ⟨raised, left, cause, rfl⟩
      · cases due

end Action

theorem Scope.close_db {ε α : Type} (ofError : TransactionError → ε) (ending : Ending ε α) (scope : Scope)
    (db : Database) : (scope.close ofError ending db).2 = (scope.finishAs ending.action db).2 := by
  cases ending with
  | ok value =>
    simp only [close, Ending.action]
    rcases scope.finishAs .commit db with ⟨_ | _, db'⟩ <;> rfl
  | error | panic => rfl

namespace Database

variable {db db' entered closed : Database} {ref : Nat} {ε α : Type} {ofError : TransactionError → ε}
  {block : Nat → Database → Ending ε α × Database} {ending : Ending ε α}

/-- What is done with a database, and the actions that it is made of. Users do one thing after the other:
single actions, ends of scopes, lines and ends of consoles, and blocks run in a transaction of their own
or in a level of one. In a block anything may be done, and none is run if it cannot be entered. Nobody
lets go of the handle that belongs to a block or to a console. -/
inductive Conduct : Database → List Action → Database → Prop
  | idle (db : Database) : Conduct db [] db
  | next {db db' db'' : Database} {actions later : List Action} (first : Conduct db actions db')
    (rest : Conduct db' later db'') : Conduct db (actions ++ later) db''
  | act (db : Database) (action : Action) : Conduct db [action] (action.perform db).2
  | leave {db : Database} (scope : Scope) (held : db.isHeld scope.ref = true) (way : Scope.Way) :
    Conduct db (scope.actions way) (scope.leave way db)
  | line {db : Database} {console : Console} (counted : console.Counted db) (text : String) :
    Conduct db (console.lineActions text) (console.executeLine text db).2.2
  | close {db : Database} {console : Console} (counted : console.Counted db) :
    Conduct db console.closeActions (console.close db).2.2
  | withTransaction {db entered closed : Database} {ref : Nat} {inner : List Action} {ε α : Type}
    {ending : Ending ε α} (ofError : TransactionError → ε)
    (block : Nat → Database → Ending ε α × Database) (enters : db.enter = (.ok ⟨ref, .rollback⟩, entered))
    (inside : Conduct entered inner closed) (ends : block ref entered = (ending, closed))
    (held : closed.isHeld ref = true) :
    Conduct db (.begin :: inner ++ [.call ref (.exit ending.action) [], .drop ref])
      (db.withTransaction ofError block).2
  | notBegun {db db' : Database} {error : TransactionError} {ε α : Type} (ofError : TransactionError → ε)
    (block : Nat → Database → Ending ε α × Database) (refused : db.enter = (.error error, db')) :
    Conduct db [.begin] (db.withTransaction ofError block).2
  | nested {db entered closed : Database} {ref : Nat} {inner : List Action} {ε α : Type}
    {ending : Ending ε α} (ofError : TransactionError → ε)
    (block : Nat → Database → Ending ε α × Database) (known : db.isHeld ref = true)
    (enters : db.enterNested ref = (.ok ⟨ref, .rollback⟩, entered))
    (inside : Conduct entered inner closed) (ends : block ref entered = (ending, closed))
    (held : closed.isHeld ref = true) :
    Conduct db (.call ref .begin [] :: inner ++ [.call ref (.exit ending.action) [], .drop ref])
      (db.nested ofError ref block).2
  | notNested {db db' : Database} {ref : Nat} {error : TransactionError} {ε α : Type}
    (ofError : TransactionError → ε) (block : Nat → Database → Ending ε α × Database)
    (known : db.isHeld ref = true) (refused : db.enterNested ref = (.error error, db')) :
    Conduct db [.call ref .begin []] (db.nested ofError ref block).2

theorem enter_perform (db : Database) : db.enter.2 = (Action.begin.perform db).2 := by
  simp only [enter, Action.perform, tell]
  rcases db.begin with ⟨_ | _, db'⟩ <;> rfl

theorem enterNested_perform (held : db.isHeld ref = true) :
    (db.enterNested ref).2 = ((Action.call ref .begin []).perform db).2 := by
  rw [enterNested_db, perform_of_held held]

theorem runIn_db {inner : List Action} (inside : closed = entered.after inner)
    (ends : block ref entered = (ending, closed)) (held : closed.isHeld ref = true) :
    (runIn ofError block (.ok ⟨ref, .rollback⟩, entered)).2 =
      entered.after (inner ++ [.call ref (.exit ending.action) [], .drop ref]) := by
  have left := @Scope.finishAs_eq ⟨ref, .rollback⟩ closed held ending.action
  simp only [runIn, ends]
  rw [Scope.close_db, left, after_append, ← inside]

theorem Conduct.eq_after {actions : List Action} (conduct : Conduct db actions db') :
    db' = db.after actions := by
  induction conduct with
  | idle | act => rfl
  | next first rest ih ihRest => rw [after_append, ← ih, ihRest]
  | leave scope held way => exact Scope.leave_eq held way
  | line counted text => exact (Console.executeLine_does counted text).did
  | close counted => exact (Console.close_does counted).did
  | @withTransaction db entered closed ref inner _ _ _ ofError block enters inside ends held ih =>
    have begun : entered = (Action.begin.perform db).2 := by rw [← enter_perform, enters]
    rw [Database.withTransaction, enters, runIn_db ih ends held, begun]
    rfl
  | notBegun ofError block refused =>
    rw [Database.withTransaction, refused]
    exact (congrArg Prod.snd refused).symm.trans (enter_perform _)
  | @nested db entered closed ref inner _ _ _ ofError block known enters inside ends held ih =>
    have begun : entered = ((Action.call ref .begin []).perform db).2 := by
      rw [← enterNested_perform known, enters]
    rw [Database.nested, enters, runIn_db ih ends held, begun]
    rfl
  | notNested ofError block known refused =>
    rw [Database.nested, refused]
    exact (congrArg Prod.snd refused).symm.trans (enterNested_perform known)

theorem escalations_after (actions : List Action) (db : Database) :
    (db.after actions).escalations = db.escalations ++ db.due actions := by
  induction actions generalizing db with
  | nil => exact (List.append_nil _).symm
  | cons action actions ih =>
    have rest := ih (action.perform db).2
    rw [action.escalations_perform, List.append_assoc] at rest
    exact rest

/-- The alarms that a database raised, but for those of forgotten transactions, are those that were due,
one for each and in the order of the failures: a begin that failed, and an exit that the server refused,
where that is strict, whoever asked for them. When the alarm for an exit is raised the level has been
left, and whoever looks at the transaction sees it as it is when the call returns. -/
theorem escalations_eq_due (server : Server) (settings : Settings) {actions : List Action}
    {db : Database} (conduct : Conduct (.on server settings) actions db) :
    db.escalations = (Database.on server settings).due actions ∧
      ∀ earlier later ref asked params, actions = earlier ++ .call ref (.exit asked) params :: later →
        let before := (Database.on server settings).after earlier
        let exit : Action := .call ref (.exit asked) params
        let after := (exit.perform before).2
        ∀ alarm, exit.due? before = some alarm → after.alarms = before.alarms ++ [alarm] ∧
          after.transaction ref = ((before.transaction ref).setStatus .errored).pop ∧
            ∃ cause, alarm = .exit ⟨asked, cause, (after.transaction ref).snapshot⟩ := by
  constructor
  · rw [conduct.eq_after, escalations_after]
    rfl
  · intro earlier later ref asked params _ before exit after alarm due
    exact Action.of_due?_exit due

theorem escalations_eq_due_refused :
    let refusing : Faults := ⟨0, false, false, false, true⟩
    let fails : Nat → Database → Ending Unit Unit × Database := fun _ db => (.error (), db)
    let start := Database.on .empty (Settings.standard.withStrict true)
    let begun := start.after [.begin, .setFaults refusing]
    let left := (begun.nested (fun _ => ()) 0 fails).2
    Conduct start ([.begin, .setFaults refusing] ++
        [.call 0 .begin [], .call 0 (.exit .rollback) [], .drop 0]) left ∧
      left.escalations.map Alarm.kind = [.rollbackFailed] := by
  intro refusing fails start begun left
  let entered := (begun.enterNested 0).2
  have first : Conduct start ([.begin] ++ [.setFaults refusing]) begun :=
    .next (.act start .begin) (.act _ (.setFaults refusing))
  have enters : begun.enterNested 0 = (.ok ⟨0, .rollback⟩, entered) :=
    Prod.ext (by decide +kernel) rfl
  have nested : Conduct begun [.call 0 .begin [], .call 0 (.exit .rollback) [], .drop 0] left :=
    .nested (fun _ => ()) fails (by decide +kernel) enters (.idle entered) rfl (by decide +kernel)
  have conduct := first.next nested
  refine ⟨conduct, ?_⟩
  rw [(escalations_eq_due .empty (Settings.standard.withStrict true) conduct).1]
  decide +kernel

end Database

end NestedTx
