import NestedTx.Console.Basic
import NestedTx.Proofs.Database.Handles

namespace NestedTx

open Database (isHeld_iff)

namespace Console

def ask (call : Transaction.Call) (otherwise : List Action) (console : Console) : List Action :=
  match console.scopes with
  | top :: _ => [.call top call []]
  | [] => otherwise

def leaving (action : ExitAction) (ref : Nat) : List Action :=
  [.call ref (.exit action) [], .drop ref]

def leaveActions (action : ExitAction) (console : Console) : List Action :=
  match console.scopes with
  | top :: _ => leaving action top
  | [] => []

def sqlActions (sql : String) (console : Console) : List Action :=
  match kindOf sql with
  | .error _ => []
  | .ok .read => console.ask (.fetch sql) [.fetch sql []]
  | .ok _ => console.ask (.execute sql) [.execute sql []]

def dotActions (command : List Char) : List Action :=
  if Text.lower (String.ofList (command.dropWhile (· == '.'))) = "status" then [.prune] else []

def lineActions (line : String) (console : Console) : List Action :=
  let chars := Text.statementChars line.toList
  match chars with
  | [] => []
  | '.' :: _ => dotActions chars
  | _ =>
    let word := String.ofList (Text.upperKey chars)
    if word = "BEGIN" then console.ask .begin [.begin]
    else if word = "COMMIT" then console.ask .commit []
    else if word = "ROLLBACK" then console.ask .rollback []
    else if word = "AUTOCOMMIT" then console.leaveActions .commit
    else if word = "AUTOROLLBACK" then console.leaveActions .rollback
    else if word = "STATUS" then [.prune]
    else console.sqlActions (String.ofList chars)

def closeActions (console : Console) : List Action := console.scopes.flatMap (leaving .rollback)

def Alike (console : Console) : Prop := ∀ ref ∈ console.scopes, ∀ other ∈ console.scopes, ref = other

def Counted (db : Database) (console : Console) : Prop :=
  ∀ ref, console.scopes.count ref ≤ db.handles ref

/-- A console does these actions, and has after that what handles it gained by them. -/
structure Does (console : Console) (db : Database) (actions : List Action) (console' : Console)
    (db' : Database) : Prop where
  did : db' = db.after actions
  handles : ∀ ref, console'.scopes.count ref + db.handles ref ≤
    console.scopes.count ref + db'.handles ref
  alike : console.Alike → console'.Alike
  about : ∀ action ∈ actions, ∀ ref, action.root? = some ref → ref ∈ console.scopes

variable {console : Console} {db : Database}

theorem Counted.held (counted : console.Counted db) {top : Nat} {below : List Nat}
    (scopes : console.scopes = top :: below) : db.isHeld top = true := by
  have enough := counted top
  rw [scopes, List.count_cons_self] at enough
  exact isHeld_iff.mpr (Nat.lt_of_lt_of_le (Nat.succ_pos _) enough)

theorem Does.counted {actions : List Action} {console' : Console} {db' : Database}
    (does : console.Does db actions console' db') (counted : console.Counted db) :
    console'.Counted db' := by
  intro ref
  have kept := does.handles ref
  have enough := counted ref
  omega

theorem does_nothing (console : Console) (db : Database) : console.Does db [] console db where
  did := rfl
  handles _ := Nat.le_refl _
  alike alike := alike
  about := nofun

theorem does_of_kept {actions : List Action} {db' : Database} (did : db' = db.after actions)
    (drops : actions.flatMap Action.drops = [])
    (about : ∀ action ∈ actions, ∀ ref, action.root? = some ref → ref ∈ console.scopes) :
    console.Does db actions console db' where
  did := did
  handles ref := by
    have kept := Database.handles_le_after actions db ref
    rw [drops, ← did] at kept
    exact Nat.add_le_add_left kept _
  alike alike := alike
  about := about

theorem does_ask {top : Nat} {below : List Nat} (scopes : console.scopes = top :: below)
    (counted : console.Counted db) (call : Transaction.Call) :
    console.Does db [.call top call []] console (db.perform call [] top).2 := by
  refine does_of_kept ?_ rfl fun action mem ref about => ?_
  · exact (Database.perform_of_held (counted.held scopes) call []).symm
  · cases List.mem_singleton.mp mem
    cases about
    rw [scopes]
    exact List.mem_cons_self

theorem does_apart {action : Action} (drops : action.drops = []) (about : action.root? = none)
    (console : Console) (db : Database) :
    console.Does db [action] console (action.perform db).2 := by
  refine does_of_kept rfl ?_ fun other mem ref asked => ?_
  · rw [List.flatMap_singleton, drops]
  · rw [List.mem_singleton.mp mem, about] at asked
    cases asked

theorem begin_handles {db' : Database} {ref : Nat} (begun : db.begin = (.ok ref, db')) :
    db.handles ref = 0 ∧ db'.handles ref = 1 := by
  simp only [Database.begin] at begun
  split at begun
  · simp only [Database.refuseBegin] at begun
    cases begun
  · split at begun
    · simp only [Database.refuseBegin] at begun
      cases begun
    · cases begun
      simp [Database.handles, Database.prune, Database.adopt]

theorem begin_does (counted : console.Counted db) :
    console.Does db (console.ask .begin [.begin]) (console.begin db).2.1 (console.begin db).2.2 := by
  cases scopes : console.scopes with
  | nil =>
    simp only [ask, begin, scopes]
    have kept := @does_apart .begin rfl rfl console db
    rcases begun : db.begin with ⟨error | ref, db'⟩
    · have same : ((Action.begin).perform db).2 = db' := by simp only [Action.perform, begun]; rfl
      rw [same] at kept
      exact kept
    · have same : ((Action.begin).perform db).2 = db' := by simp only [Action.perform, begun]; rfl
      rw [same] at kept
      obtain ⟨none, one⟩ := begin_handles begun
      refine ⟨kept.did, fun other => ?_, fun _ => ?_, kept.about⟩
      · have others := kept.handles other
        rw [scopes, List.count_nil] at others ⊢
        dsimp only
        rw [List.count_singleton]
        split
        · rename_i hit
          cases beq_iff_eq.mp hit
          omega
        · omega
      · intro a ha b hb
        rw [List.mem_singleton.mp ha, List.mem_singleton.mp hb]
  | cons top below =>
    simp only [ask, begin, scopes]
    have kept := does_ask scopes counted .begin
    have more := Action.handles_call (counted.held scopes) .begin []
    simp only [Database.perform] at kept more
    rcases begun : db.beginNested top with ⟨error | _, db'⟩
    · rw [begun] at kept
      exact kept
    · rw [begun] at kept more
      refine ⟨kept.did, fun other => ?_, fun alike => ?_, kept.about⟩
      · have others := kept.handles other
        rw [scopes] at others ⊢
        dsimp only
        rw [List.count_cons]
        split
        · rename_i hit
          cases beq_iff_eq.mp hit
          replace more : db'.handles top = db.handles top + 1 := more
          omega
        · omega
      · have old : ∀ ref ∈ top :: top :: below, ref ∈ console.scopes := by
          rw [scopes]
          intro ref mem
          rcases List.mem_cons.mp mem with rfl | mem
          · exact List.mem_cons_self
          · exact mem
        exact fun a ha b hb => alike a (old a ha) b (old b hb)

theorem decide_does (counted : console.Counted db) {call : Transaction.Call}
    {finish : Nat → Database → Except TransactionError Unit × Database}
    (same : ∀ ref db, finish ref db = db.perform call [] ref) (message : String) :
    console.Does db (console.ask call []) (console.decide finish message db).2.1
      (console.decide finish message db).2.2 := by
  cases scopes : console.scopes with
  | nil =>
    simp only [ask, decide, scopes]
    exact does_nothing console db
  | cons top below =>
    have kept := does_ask scopes counted call
    simp only [ask, decide, scopes, same]
    rcases did : db.perform call [] top with ⟨error | _, db'⟩
    · rw [did] at kept
      exact kept
    · rw [did] at kept
      exact kept

theorem exit_drop (action : ExitAction) {ref : Nat} (held : db.isHeld ref = true) :
    (db.exit action ref).2.drop ref = db.after (leaving action ref) :=
  @Scope.finishAs_eq ⟨ref, action⟩ db held action

theorem root_of_leaving {action : ExitAction} {top ref : Nat} {asked : Action}
    (mem : asked ∈ leaving action top) (about : asked.root? = some ref) : ref = top := by
  rcases List.mem_cons.mp mem with rfl | mem
  · cases about
    rfl
  · cases List.mem_singleton.mp mem
    cases about
    rfl

theorem leave_does (counted : console.Counted db) (action : ExitAction) (verb : String) :
    console.Does db (console.leaveActions action) (console.leave action verb db).2.1
      (console.leave action verb db).2.2 := by
  cases scopes : console.scopes with
  | nil =>
    simp only [leaveActions, leave, scopes]
    exact does_nothing console db
  | cons top below =>
    simp only [leaveActions, leave, scopes]
    have left := exit_drop action (counted.held scopes)
    refine ⟨left, fun ref => ?_, fun alike a ha b hb => ?_,
      fun action mem ref about => ?_⟩
    · have gone := Database.handles_le_after (leaving action top) db ref
      have one : (leaving action top).flatMap Action.drops = [top] := rfl
      rw [one, ← left, List.count_singleton] at gone
      rw [scopes, List.count_cons]
      dsimp only
      omega
    · rw [Alike, scopes] at alike
      exact alike a (List.mem_cons_of_mem _ ha) b (List.mem_cons_of_mem _ hb)
    · rw [scopes, root_of_leaving mem about]
      exact List.mem_cons_self

theorem status_does (console : Console) (db : Database) :
    console.Does db [.prune] (console.status db).2.1 (console.status db).2.2 :=
  @does_apart .prune rfl rfl console db

theorem runSql_does (counted : console.Counted db) (sql : String) :
    console.Does db (console.sqlActions sql) (console.runSql sql db).2.1
      (console.runSql sql db).2.2 := by
  have fetched : console.Does db (console.ask (.fetch sql) [.fetch sql []]) console
      (db.fetch console.target sql []).2 := by
    cases scopes : console.scopes with
    | nil =>
      simp only [ask, target, scopes]
      exact @does_apart (.fetch sql []) rfl rfl console db
    | cons top below =>
      have same : (db.perform (.fetch sql) [] top).2 = (db.fetch (.transaction top) sql []).2 := by
        simp only [Database.perform]
      simp only [ask, target, scopes, ← same]
      exact does_ask scopes counted (.fetch sql)
  have executed : console.Does db (console.ask (.execute sql) [.execute sql []]) console
      (db.execute console.target sql []).2 := by
    cases scopes : console.scopes with
    | nil =>
      simp only [ask, target, scopes]
      exact @does_apart (.execute sql []) rfl rfl console db
    | cons top below =>
      simp only [ask, target, scopes, ← Database.perform_execute_db]
      exact does_ask scopes counted (.execute sql)
  simp only [sqlActions, runSql]
  generalize db.fetch console.target sql [] = fetch at fetched
  generalize db.execute console.target sql [] = execute at executed
  cases kindOf sql with
  | error error => exact does_nothing console db
  | ok kind =>
    cases kind with
    | read => exact fetched
    | other | write | schema | transactionControl => exact executed

theorem dotCommand_does (command : List Char) (console : Console) (db : Database) :
    console.Does db (dotActions command) (console.dotCommand command db).2.1
      (console.dotCommand command db).2.2 := by
  simp only [dotActions, dotCommand]
  generalize Text.lower (String.ofList (command.dropWhile (· == '.'))) = name
  by_cases asked : name = "status"
  · subst asked
    exact status_does console db
  · rw [if_neg asked, if_neg asked]
    split
    · exact does_nothing console db
    · split
      · exact does_nothing console db
      · exact does_nothing console db

theorem executeLine_does (counted : console.Counted db) (line : String) :
    console.Does db (console.lineActions line) (console.executeLine line db).2.1
      (console.executeLine line db).2.2 := by
  simp only [lineActions]
  split
  · rename_i empty
    simp only [executeLine, empty]
    exact does_nothing console db
  · rename_i dot
    simp only [executeLine, dot]
    exact dotCommand_does _ console db
  · simp only [executeLine]
    generalize Text.statementChars line.toList = chars
    generalize String.ofList (Text.upperKey chars) = word
    split
    · exact begin_does counted
    · split
      · exact decide_does counted (fun _ _ => rfl) "COMMIT"
      · split
        · exact decide_does counted (fun _ _ => rfl) "ROLLBACK"
        · split
          · exact leave_does counted .commit "AUTOCOMMIT"
          · split
            · exact leave_does counted .rollback "AUTOROLLBACK"
            · split
              · exact status_does console db
              · exact runSql_does counted (String.ofList chars)

theorem closeFrom_after (scopes : List Nat) (db : Database)
    (counted : ∀ ref, scopes.count ref ≤ db.handles ref) :
    (closeFrom scopes db).2 = db.after (scopes.flatMap (leaving .rollback)) := by
  induction scopes generalizing db with
  | nil => rfl
  | cons top below ih =>
    have held : db.isHeld top = true := by
      have enough := counted top
      rw [List.count_cons_self] at enough
      exact isHeld_iff.mpr (Nat.lt_of_lt_of_le (Nat.succ_pos _) enough)
    have left := exit_drop .rollback held
    have rest := ih ((db.exit .rollback top).2.drop top) fun ref => by
      have gone := Database.handles_le_after (leaving .rollback top) db ref
      have one : (leaving .rollback top).flatMap Action.drops = [top] := rfl
      have enough := counted ref
      rw [one, ← left, List.count_singleton] at gone
      rw [List.count_cons] at enough
      omega
    rw [List.flatMap_cons, Database.after_append, ← left, ← rest]
    simp only [closeFrom]
    split <;> rfl

theorem drops_closeActions (console : Console) :
    console.closeActions.flatMap Action.drops = console.scopes := by
  rw [closeActions, List.flatMap_assoc]
  exact List.flatMap_singleton' console.scopes

theorem close_does (counted : console.Counted db) :
    console.Does db console.closeActions (console.close db).2.1 (console.close db).2.2 where
  did := closeFrom_after console.scopes db counted
  handles ref := by
    have gone := Database.handles_le_after console.closeActions db ref
    rw [drops_closeActions, closeActions, ← closeFrom_after console.scopes db counted] at gone
    show 0 + _ ≤ _ + (closeFrom console.scopes db).2.handles ref
    omega
  alike _ := nofun
  about action mem ref about := by
    obtain ⟨top, held, mem⟩ := List.mem_flatMap.mp mem
    rw [root_of_leaving mem about]
    exact held

end Console

end NestedTx
