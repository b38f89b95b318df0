import NestedTx.Proofs.Console.Lines
import NestedTx.Proofs.Database.Depth

namespace NestedTx

namespace Console

def facing (faults : List Faults) : List Action := (faults.head?.map .setFaults).toList

def under : List Faults → List Action → List Action
  | faults, [] => facing faults
  | faults, action :: actions => facing faults ++ action :: under faults.tail actions

theorem forall_under {p : Action → Prop} (refused : ∀ faults, p (.setFaults faults))
    {actions : List Action} (each : ∀ action ∈ actions, p action) (faults : List Faults) :
    ∀ action ∈ under faults actions, p action := by
  have faced (faults : List Faults) : ∀ action ∈ facing faults, p action := by
    cases faults with
    | nil => nofun
    | cons first later => exact List.forall_mem_singleton.mpr (refused first)
  induction actions generalizing faults with
  | nil => exact faced faults
  | cons action actions ih =>
    obtain ⟨first, rest⟩ := List.forall_mem_cons.mp each
    exact List.forall_mem_append.mpr ⟨faced faults, List.forall_mem_cons.mpr ⟨first, ih rest _⟩⟩

theorem under_singleton (faults : List Faults) (action : Action) :
    under faults [action] = facing faults ++ action :: facing faults.tail := rfl

theorem under_leaving (faults : List Faults) (action : ExitAction) (ref : Nat) (later : List Action) :
    under faults (leaving action ref ++ later) =
      facing faults ++ .call ref (.exit action) [] ::
        (facing faults.tail ++ .drop ref :: under faults.tail.tail later) := rfl

theorem under_of_constant {faults : List Faults} (constant : faults.length ≤ 1)
    (actions : List Action) : under faults actions = facing faults ++ actions := by
  have none (actions : List Action) : under [] actions = actions := by
    induction actions with
    | nil => rfl
    | cons action actions ih =>
      rw [under, List.tail_nil, ih]
      rfl
  cases actions with
  | nil => exact (List.append_nil _).symm
  | cons action actions =>
    have short : faults.tail = [] := List.length_eq_zero_iff.mp (by rw [List.length_tail]; omega)
    rw [under, short, none]

theorem exists_after_under {actions : List Action} (short : actions.length ≤ 1) (faults : List Faults)
    (db : Database) : ∃ later, db.after (under faults actions) =
      ((db.after (facing faults)).after actions).after (facing later) := by
  rcases actions with _ | ⟨action, _ | ⟨other, actions⟩⟩
  · exact ⟨[], rfl⟩
  · exact ⟨faults.tail, by rw [under_singleton, Database.after_append]; rfl⟩
  · simp at short

theorem entries_facing (faults : List Faults) (db : Database) :
    (db.after (facing faults)).entries = db.entries := by
  cases faults <;> rfl

theorem unlent_facing (faults : List Faults) {db : Database} (h : db.Unlent) :
    (db.after (facing faults)).Unlent := by
  cases faults with
  | nil => exact h
  | cons refused later => exact ⟨h.connections, h.serverTransactions⟩

theorem kept_dotCommand (text : List Char) (console : Console) (db : Database) :
    (console.dotCommand text db).2.1 = console := by
  simp only [dotCommand, status]
  split
  · rfl
  · split
    · rfl
    · split <;> rfl

theorem kept_decide (finish : Nat → Database → Except TransactionError Unit × Database)
    (message : String) (console : Console) (db : Database) :
    (console.decide finish message db).2.1 = console := by
  simp only [decide]
  split
  · rfl
  · split <;> rfl

theorem kept_runSql (text : String) (console : Console) (db : Database) :
    (console.runSql text db).2.1 = console := by
  simp only [runSql]
  split <;> rfl

def Command.isStill : Command → Bool
  | begin => false
  | leave _ => false
  | _ => true

theorem kept_perform {asked : Command} (still : asked.isStill = true) (console : Console)
    (db : Database) : (perform asked console db).2.1 = console := by
  cases asked with
  | nothing | status => rfl
  | dot text => simp only [perform, kept_dotCommand]
  | finish action => cases action <;> simp only [perform, kept_decide]
  | sql text => simp only [perform, kept_runSql]
  | begin | leave => cases still

theorem perform_leave (action : ExitAction) (scopes : List Nat) (db : Database) :
    (perform (.leave action) ⟨scopes⟩ db).2.1 = ⟨scopes.tail⟩ := by
  cases scopes <;> cases action <;> rfl

theorem scopes_begin {console : Console} {db : Database}
    (begun : (console.begin db).1.toBool = true) :
    ∃ ref, (console.begin db).2.1.scopes = ref :: console.scopes := by
  simp only [begin] at begun ⊢
  split at begun
  · split at begun
    · cases begun
    · exact ⟨_, rfl⟩
  · rename_i scopes
    split at begun
    · cases begun
    · exact ⟨_, by rw [scopes]⟩

theorem length_ask (call : Transaction.Call) (otherwise : List Action) (short : otherwise.length ≤ 1)
    (console : Console) : (console.ask call otherwise).length ≤ 1 := by
  simp only [ask]
  split
  · exact Nat.le_refl 1
  · exact short

theorem length_actions (asked : Command) (single : ∀ action, asked ≠ .leave action)
    (console : Console) : (asked.actions console).length ≤ 1 := by
  cases asked with
  | nothing => exact Nat.zero_le 1
  | dot text =>
    simp only [Command.actions, dotActions]
    split
    · exact Nat.le_refl 1
    · exact Nat.zero_le 1
  | begin => exact length_ask .begin [.begin] (Nat.le_refl 1) console
  | finish action => exact length_ask (finishing action) [] (Nat.zero_le 1) console
  | leave action => exact (single action rfl).elim
  | status => exact Nat.le_refl 1
  | sql text =>
    simp only [Command.actions, sqlActions]
    split
    · exact Nat.zero_le 1
    · exact length_ask (.fetch text) [.fetch text []] (Nat.le_refl 1) console
    · exact length_ask (.execute text) [.execute text []] (Nat.le_refl 1) console

structure Stands (console : Console) (db : Database) : Prop where
  handles : ∀ ref, db.handles ref = console.scopes.count ref
  alike : console.Alike
  depth : ∀ ref ∈ console.scopes, console.scopes.length = db.depth ref + 1
  unlent : db.Unlent

namespace Stands

variable {console : Console} {db db' : Database} {top : Nat} {below : List Nat}

theorem counted (h : console.Stands db) : console.Counted db :=
  fun ref => Nat.le_of_eq (h.handles ref).symm

theorem held (h : console.Stands db) (scopes : console.scopes = top :: below) :
    db.isHeld top = true := h.counted.held scopes

theorem eq_top (h : console.Stands db) (scopes : console.scopes = top :: below) {ref : Nat}
    (mem : ref ∈ console.scopes) : ref = top :=
  h.alike ref mem top (by rw [scopes]; exact List.mem_cons_self)

theorem length_scopes (h : console.Stands db) (scopes : console.scopes = top :: below) :
    console.scopes.length = db.depth top + 1 :=
  h.depth top (by rw [scopes]; exact List.mem_cons_self)

theorem of_same (h : console.Stands db) (handles : ∀ ref, db'.handles ref = db.handles ref)
    (depth : ∀ ref ∈ console.scopes, db'.depth ref = db.depth ref) (unlent : db'.Unlent) :
    console.Stands db' where
  handles ref := (handles ref).trans (h.handles ref)
  alike := h.alike
  depth ref mem := by rw [h.depth ref mem, depth ref mem]
  unlent := unlent

theorem of_entries (h : console.Stands db) (same : db'.entries = db.entries) (unlent : db'.Unlent) :
    console.Stands db' :=
  h.of_same (fun ref => Action.handles_of_lookup (congrArg (·[ref]?) same))
    (fun ref _ => Action.depth_of_lookup (congrArg (·[ref]?) same)) unlent

theorem rootless (h : console.Stands db) (action : Action) (plain : action.isPlain = true)
    (rootless : action.root? = none) (idle : action.adds = false) :
    console.Stands (action.perform db).2 :=
  h.of_entries (Action.entries_of_idle rootless idle db) (Action.unlent plain h.unlent)

theorem expire (h : console.Stands db) (ref openFor : Nat) :
    console.Stands ((Action.expire ref openFor).perform db).2 := by
  have same (other : Nat) : (db.expire ref openFor).handles other = db.handles other ∧
      (db.expire ref openFor).depth other = db.depth other := by
    by_cases about : ref = other
    · subst about
      exact Database.expire_eq ref openFor db
    · have kept := @Action.lookup_other (.expire ref openFor) other
        (fun he => about (Option.some.inj he)) rfl db
      exact ⟨Action.handles_of_lookup kept, Action.depth_of_lookup kept⟩
  exact h.of_same (fun other => (same other).1) (fun other _ => (same other).2)
    (@Action.unlent (.expire ref openFor) db rfl h.unlent)

theorem facing (h : console.Stands db) (faults : List Faults) :
    console.Stands (db.after (Console.facing faults)) :=
  h.of_entries (entries_facing faults db) (unlent_facing faults h.unlent)

theorem call (h : console.Stands db) (scopes : console.scopes = top :: below)
    (call : Transaction.Call) :
    let did := (Action.call top call []).perform db
    (∀ ref, did.2.handles ref =
      db.handles ref + if ref = top then call.handles did.1 else 0) ∧
      did.2.depth top = call.depth did.1 (db.depth top) ∧ did.2.Unlent := by
  intro did
  have held := h.held scopes
  have performed : did = Database.tell .transaction (db.perform call [] top) := by
    simp only [did, Action.perform, if_pos held]
  have answer : call.handles did.1 = call.handles (db.perform call [] top).1 ∧
      call.depth did.1 (db.depth top) = call.depth (db.perform call [] top).1 (db.depth top) := by
    rw [performed, Database.tell]
    cases (db.perform call [] top).1 <;> cases call <;> exact ⟨rfl, rfl⟩
  have after : did.2 = (db.perform call [] top).2 := by
    rw [performed]
    rfl
  refine ⟨fun ref => ?_, ?_, Action.unlent rfl h.unlent⟩
  · by_cases about : ref = top
    · subst about
      rw [if_pos rfl, answer.1, after]
      exact Action.handles_call held call []
    · rw [if_neg about, Nat.add_zero]
      exact Action.handles_of_lookup
        (@Action.lookup_other (.call top call []) ref (fun he => about (Option.some.inj he).symm) rfl db)
  · rw [answer.2, after]
    exact Database.depth_perform held call []

theorem stay (h : console.Stands db) (scopes : console.scopes = top :: below)
    {call : Transaction.Call} (stays : call.stays ((Action.call top call []).perform db).1 = true) :
    console.Stands ((Action.call top call []).perform db).2 := by
  obtain ⟨handles, depth, unlent⟩ := h.call scopes call
  generalize (Action.call top call []).perform db = did at handles depth unlent stays
  have none : call.handles did.1 = 0 ∧ call.depth did.1 (db.depth top) = db.depth top := by
    obtain ⟨answer, after⟩ := did
    cases call with
    | begin =>
      cases answer with
      | error error => exact ⟨rfl, rfl⟩
      | ok => cases stays
    | exit action => cases stays
    | commit | rollback | execute | fetch => exact ⟨rfl, rfl⟩
  refine h.of_same (fun ref => ?_) (fun ref mem => ?_) unlent
  · rw [handles, none.1, ite_self, Nat.add_zero]
  · rw [h.eq_top scopes mem, depth, none.2]

theorem enter (h : console.Stands db) (scopes : console.scopes = top :: below)
    (entered : ((Action.call top .begin []).perform db).1.toBool = true) :
    Stands ⟨top :: console.scopes⟩ ((Action.call top .begin []).perform db).2 := by
  obtain ⟨handles, depth, unlent⟩ := h.call scopes .begin
  generalize (Action.call top .begin []).perform db = did at handles depth unlent entered
  have old (ref : Nat) (new : ref ∈ top :: console.scopes) : ref = top := by
    rcases List.mem_cons.mp new with same | old
    · exact same
    · exact h.eq_top scopes old
  have one : Transaction.Call.begin.handles did.1 = 1 ∧
      Transaction.Call.begin.depth did.1 (db.depth top) = db.depth top + 1 := by
    obtain ⟨answer, after⟩ := did
    cases answer with
    | error error => cases entered
    | ok => exact ⟨rfl, rfl⟩
  refine ⟨fun ref => ?_, fun a ha b hb => (old a ha).trans (old b hb).symm, fun ref new => ?_, unlent⟩
  · rw [handles, h.handles, one.1, List.count_cons]
    by_cases same : ref = top
    · rw [if_pos same, if_pos (by rw [same]; exact beq_self_eq_true top)]
    · rw [if_neg same, if_neg (by rw [beq_iff_eq]; exact fun he => same he.symm)]
  · rw [old ref new, List.length_cons, h.length_scopes scopes, depth, one.2]

theorem leave (h : console.Stands db) (scopes : console.scopes = top :: below) (action : ExitAction)
    (faults : List Faults) :
    let left := ((Action.call top (.exit action) []).perform db).2.after (Console.facing faults)
    Stands ⟨below⟩ (left.drop top) ∧ (left.drop top).depth top = db.depth top - 1 := by
  intro left
  obtain ⟨handles, depth, unlent⟩ := h.call scopes (.exit action)
  have entries := entries_facing faults ((Action.call top (.exit action) []).perform db).2
  replace unlent : left.Unlent := unlent_facing faults unlent
  have kept (ref : Nat) : left.handles ref = console.scopes.count ref := by
    rw [← h.handles ref, Action.handles_of_lookup (congrArg (·[ref]?) entries), handles]
    split <;> rfl
  have less : (left.drop top).depth top = db.depth top - 1 := by
    rw [Database.depth_drop, Action.depth_of_lookup (congrArg (·[top]?) entries), depth]
    rfl
  have old (ref : Nat) (still : ref ∈ below) : ref = top := by
    apply h.eq_top scopes
    rw [scopes]
    exact List.mem_cons_of_mem _ still
  refine ⟨⟨fun ref => ?_, fun a ha b hb => (old a ha).trans (old b hb).symm, fun ref still => ?_,
    @Action.unlent (.drop top) left rfl unlent⟩, less⟩
  · by_cases same : ref = top
    · rw [same, Database.handles_drop, kept, scopes, List.count_cons_self]
      rfl
    · have other : (left.drop top).handles ref = left.handles ref := Action.handles_of_lookup
        (@Action.lookup_other (.drop top) ref (fun he => same (Option.some.inj he).symm) rfl left)
      rw [other, kept, scopes, List.count_cons_of_ne (Ne.symm same)]
  · replace still : ref ∈ below := still
    have length := h.length_scopes scopes
    have some := List.length_pos_of_mem still
    rw [scopes, List.length_cons] at length
    rw [old ref still, less]
    show below.length = _
    omega

theorem of_root (unheld : ∀ ref, db.handles ref = 0) {tx : Transaction} (root : tx.depth = 0)
    (grown : db'.entries = db.entries ++ [⟨tx, 1⟩]) (unlent : db'.Unlent) :
    Stands ⟨[db.entries.length]⟩ db' := by
  have known : db'.entries[db.entries.length]? = some ⟨tx, 1⟩ := by
    rw [grown]
    exact List.getElem?_concat_length
  refine ⟨fun ref => ?_, fun a ha b hb => ?_, fun ref mem => ?_, unlent⟩
  · rw [List.count_singleton]
    split
    · rename_i hit
      rw [← beq_iff_eq.mp hit, Database.handles_of_known known]
    · rename_i miss
      have other : ref ≠ db.entries.length := fun he => miss (beq_iff_eq.mpr he.symm)
      rw [← unheld ref]
      apply Action.handles_of_lookup
      rw [grown]
      rcases Nat.lt_or_gt_of_ne other with old | new
      · exact List.getElem?_append_left old
      · rw [List.getElem?_eq_none (Nat.le_of_lt new)]
        exact List.getElem?_eq_none (by rw [List.length_append]; exact new)
  · rw [List.mem_singleton.mp ha, List.mem_singleton.mp hb]
  · rw [List.mem_singleton.mp mem, Database.depth_of_known known, root]
    rfl

theorem begin_root (h : console.Stands db) (scopes : console.scopes = []) :
    let told := console.begin db
    told.2.1.Stands (db.after [.begin]) ∧ (told.1.toBool = false → told.2.1 = console) := by
  intro told
  have unheld (ref : Nat) : db.handles ref = 0 := by
    rw [h.handles, scopes]
    rfl
  have unlent : db.begin.2.Unlent := @Action.unlent .begin db rfl h.unlent
  have after : db.after [.begin] = db.begin.2 := rfl
  simp only [told, Console.begin, scopes, after]
  rcases db.begin_adds with ⟨error, db', begun, kept⟩ | ⟨tx, db', begun, root, grown⟩
  · rw [begun] at unlent ⊢
    exact ⟨h.of_entries kept unlent, fun _ => rfl⟩
  · rw [begun] at unlent ⊢
    refine ⟨of_root unheld root grown unlent, fun refused => ?_⟩
    cases refused

theorem begin_level (h : console.Stands db) (scopes : console.scopes = top :: below) :
    let told := console.begin db
    let next := db.after [.call top .begin []]
    told.2.1.Stands next ∧
      (told.1.toBool = false → told.2.1 = console ∧ next.depth top = db.depth top) := by
  intro told next
  have enters := h.enter scopes
  have stays := @stay console db top below h scopes .begin
  have deep := (h.call scopes .begin).2.1
  have did : (Action.call top .begin []).perform db =
      Database.tell .transaction (db.beginNested top) := by
    simp only [Action.perform, if_pos (h.held scopes)]
    rfl
  have after : db.after [.call top .begin []] = ((Action.call top .begin []).perform db).2 := rfl
  simp only [told, next, Console.begin, scopes, after]
  rw [did] at enters stays deep ⊢
  rw [scopes] at enters
  generalize db.beginNested top = begun at enters stays deep ⊢
  rcases begun with ⟨error | _, db'⟩
  · exact ⟨stays rfl, fun _ => ⟨rfl, deep⟩⟩
  · refine ⟨enters rfl, fun refused => ?_⟩
    cases refused

theorem begin (h : console.Stands db) :
    let told := console.begin db
    let next := db.after (console.ask .begin [.begin])
    told.2.1.Stands next ∧
      (told.1.toBool = false → told.2.1 = console ∧
        ∀ ref ∈ console.scopes, next.depth ref = db.depth ref) := by
  intro told next
  cases scopes : console.scopes with
  | nil =>
    obtain ⟨stands, failed⟩ := h.begin_root scopes
    simp only [next, ask, scopes]
    exact ⟨stands, fun refused => ⟨failed refused, List.forall_mem_nil _⟩⟩
  | cons top below =>
    obtain ⟨stands, failed⟩ := h.begin_level scopes
    simp only [next, ask, scopes]
    refine ⟨stands, fun refused => ⟨(failed refused).1, fun ref mem => ?_⟩⟩
    rw [← scopes] at mem
    rw [h.eq_top scopes mem]
    exact (failed refused).2

theorem ask (h : console.Stands db) {call : Transaction.Call}
    (stays : ∀ answer : Except DatabaseError Unit, call.stays answer = true) {otherwise : List Action}
    (apart : otherwise = [] ∨ ∃ action, otherwise = [action] ∧ action.isPlain = true ∧
      action.root? = none ∧ action.adds = false) :
    console.Stands (db.after (console.ask call otherwise)) := by
  cases scopes : console.scopes with
  | nil =>
    simp only [Console.ask, scopes]
    rcases apart with rfl | ⟨action, rfl, plain, rootless, idle⟩
    · exact h
    · exact h.rootless action plain rootless idle
  | cons top below =>
    simp only [Console.ask, scopes]
    exact h.stay scopes (stays _)

theorem still (h : console.Stands db) {asked : Command} (still : asked.isStill = true) :
    console.Stands (db.after (asked.actions console)) := by
  cases asked with
  | nothing => exact h
  | dot text =>
    simp only [Command.actions, dotActions]
    split
    · exact h.rootless .prune rfl rfl rfl
    · exact h
  | finish action => exact h.ask (fun _ => by cases action <;> rfl) (.inl rfl)
  | status => exact h.rootless .prune rfl rfl rfl
  | sql text =>
    simp only [Command.actions, sqlActions]
    split
    · exact h
    · exact h.ask (fun _ => rfl) (.inr ⟨.fetch text [], rfl, rfl, rfl, rfl⟩)
    · exact h.ask (fun _ => rfl) (.inr ⟨.execute text [], rfl, rfl, rfl, rfl⟩)
  | begin | leave => cases still

theorem exists_left (h : console.Stands db) {top : Nat} {below : List Nat}
    (scopes : console.scopes = top :: below) (action : ExitAction) (faults : List Faults) :
    ∃ left, Stands ⟨below⟩ left ∧ left.depth top = db.depth top - 1 ∧ ∀ later,
      db.after (under faults (leaving action top ++ later)) =
        left.after (under faults.tail.tail later) := by
  have faced := h.facing faults
  obtain ⟨stands, deep⟩ := faced.leave scopes action faults.tail
  refine ⟨_, stands, deep.trans ?_, fun later => ?_⟩
  · rw [Action.depth_of_lookup (congrArg (·[top]?) (entries_facing faults db))]
  · rw [under_leaving, Database.after_append]
    exact Database.after_append _ _ _

theorem depth_facing (faults : List Faults) (ref : Nat) (db : Database) :
    (db.after (Console.facing faults)).depth ref = db.depth ref :=
  Action.depth_of_lookup (congrArg (·[ref]?) (entries_facing faults db))

theorem under_one {console' : Console} {actions : List Action} (short : actions.length ≤ 1)
    {faults : List Faults}
    (h : console'.Stands ((db.after (Console.facing faults)).after actions)) :
    console'.Stands (db.after (under faults actions)) := by
  obtain ⟨later, after⟩ := exists_after_under short faults db
  rw [after]
  exact h.facing later

theorem under_leave (h : console.Stands db) (scopes : console.scopes = top :: below)
    (action : ExitAction) (faults : List Faults) :
    let next := db.after (under faults ((Command.leave action).actions console))
    Stands ⟨below⟩ next ∧ next.depth top = db.depth top - 1 := by
  intro next
  have actions : (Command.leave action).actions console = leaving action top ++ [] := by
    simp only [Command.actions, leaveActions, scopes, List.append_nil]
  obtain ⟨left, stands, deep, after⟩ := h.exists_left scopes action faults
  simp only [next, actions, after]
  exact ⟨stands.facing faults.tail.tail, (depth_facing faults.tail.tail top left).trans deep⟩

theorem under_begin (h : console.Stands db) {faults : List Faults}
    (failed : (console.begin (db.after (Console.facing faults))).1.toBool = false) :
    ∀ ref ∈ console.scopes,
      (db.after (under faults (Command.begin.actions console))).depth ref = db.depth ref := by
  intro ref mem
  obtain ⟨later, after⟩ := exists_after_under (length_actions .begin (by simp) console) faults db
  obtain ⟨_, deep⟩ := (h.facing faults).begin.2 failed
  rw [after, depth_facing]
  exact (deep ref mem).trans (depth_facing faults ref db)

theorem line (h : console.Stands db) (text : String) (faults : List Faults) :
    (console.executeLine text (db.after (Console.facing faults))).2.1.Stands
      (db.after (under faults (console.lineActions text))) := by
  have faced := h.facing faults
  rw [executeLine_eq, lineActions_eq]
  generalize command text = asked
  have quiet (still : asked.isStill = true) (single : ∀ action, asked ≠ .leave action) :
      (perform asked console (db.after (Console.facing faults))).2.1.Stands
        (db.after (under faults (asked.actions console))) := by
    rw [kept_perform still]
    exact under_one (length_actions asked single console) (faced.still still)
  cases asked with
  | begin => exact under_one (length_actions .begin (by simp) console) faced.begin.1
  | leave action =>
    obtain ⟨scopes⟩ := console
    rw [perform_leave]
    cases scopes with
    | nil => exact @under_one db ⟨[]⟩ [] (Nat.zero_le 1) faults faced
    | cons top below => exact (h.under_leave rfl action faults).1
  | _ => exact quiet rfl (by simp)

theorem close (h : console.Stands db) (faults : List Faults) :
    Console.new.Stands (db.after (under faults console.closeActions)) := by
  obtain ⟨scopes⟩ := console
  simp only [closeActions]
  induction scopes generalizing db faults with
  | nil => exact h.facing faults
  | cons top below ih =>
    obtain ⟨left, stands, _, after⟩ := h.exists_left rfl .rollback faults
    rw [List.flatMap_cons, after]
    exact ih faults.tail.tail stands

end Stands

end Console

end NestedTx
