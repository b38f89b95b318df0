import NestedTx.Proofs.Console.Piles
import NestedTx.Proofs.Database.Commits
import NestedTx.Proofs.Database.Vacant

namespace NestedTx

open Console (facing under command Stands)
open History

structure Desk where
  console : Console
  run : Run

/-- What happens at a desk. The refusals are those before each action; an action asks the server for a
thing of a kind at most once. -/
inductive Turn
  | line (text : String) (faults : List Faults)
  | close (faults : List Faults)
  | expire (ref openFor : Nat)
  | answer (sql : String) (rows : List Row)

namespace Desk

def start (server : Server) (settings : Settings) : Desk := ⟨.new, .start server settings⟩

def actions : Turn → Desk → List Action
  | .line text faults, desk => under faults (desk.console.lineActions text)
  | .close faults, desk => under faults desk.console.closeActions
  | .expire ref openFor, _ => [.expire ref openFor]
  | .answer sql rows, _ => [.answer sql rows]

def next : Turn → Desk → Console
  | .line text faults, desk => (desk.console.executeLine text (desk.run.db.after (facing faults))).2.1
  | .close faults, desk => (desk.console.close (desk.run.db.after (facing faults))).2.1
  | _, desk => desk.console

def turn (desk : Desk) (turn : Turn) : Desk := ⟨desk.next turn, desk.run.steps (desk.actions turn)⟩

def turns (desk : Desk) (turns : List Turn) : Desk := turns.foldl turn desk

def allActions : List Turn → Desk → List Action
  | [], _ => []
  | turn :: turns, desk => desk.actions turn ++ allActions turns (desk.turn turn)

variable {desk : Desk} {ref : Nat}

theorem run_turns (desk : Desk) (turns : List Turn) :
    (desk.turns turns).run = desk.run.steps (desk.allActions turns) := by
  induction turns generalizing desk with
  | nil => rfl
  | cons turn turns ih =>
    rw [allActions, Run.steps_append]
    exact ih (desk.turn turn)

theorem turns_append (desk : Desk) (turns later : List Turn) :
    desk.turns (turns ++ later) = (desk.turns turns).turns later := List.foldl_append

theorem plain_actions (turn : Turn) (desk : Desk) :
    ∀ action ∈ desk.actions turn, action.isPlain = true := by
  cases turn with
  | line text faults =>
    simp only [actions, Console.lineActions_eq]
    refine Console.forall_under (fun _ => rfl) ?_ faults
    exact Console.Command.forall_actions (Action.isPlain · = true) (fun _ _ _ => rfl) (fun _ => rfl)
      rfl rfl (fun _ _ => rfl) (fun _ _ => rfl) desk.console
  | close faults =>
    refine Console.forall_under (fun _ => rfl) (fun action mem => ?_) faults
    obtain ⟨top, _, mem⟩ := List.mem_flatMap.mp mem
    exact Console.forall_leaving (Action.isPlain · = true) rfl rfl action mem
  | expire | answer => exact List.forall_mem_singleton.mpr rfl

theorem plain_allActions (turns : List Turn) (desk : Desk) :
    ∀ action ∈ desk.allActions turns, action.isPlain = true := by
  induction turns generalizing desk with
  | nil => exact List.forall_mem_nil _
  | cons turn turns ih =>
    exact List.forall_mem_append.mpr ⟨plain_actions turn desk, ih (desk.turn turn)⟩

theorem stands_start (server : Server) (settings : Settings) :
    (start server settings).console.Stands (start server settings).run.db where
  handles _ := rfl
  alike := nofun
  depth := nofun
  unlent := ⟨rfl, rfl⟩

theorem stands_turn (h : desk.console.Stands desk.run.db) (turn : Turn) :
    (desk.turn turn).console.Stands (desk.turn turn).run.db := by
  simp only [Desk.turn, Run.db_steps]
  cases turn with
  | line text faults => exact h.line text faults
  | close faults => exact h.close faults
  | expire ref openFor => exact h.expire ref openFor
  | answer sql rows => exact h.rootless (.answer sql rows) rfl rfl rfl

theorem stands_turns (h : desk.console.Stands desk.run.db) (turns : List Turn) :
    (desk.turns turns).console.Stands (desk.turns turns).run.db := by
  induction turns generalizing desk with
  | nil => exact h
  | cons turn turns ih => exact ih (stands_turn h turn)

theorem db_line (h : desk.console.Stands desk.run.db) (text : String) {faults : List Faults}
    (constant : faults.length ≤ 1) : (desk.turn (.line text faults)).run.db =
      (desk.console.executeLine text (desk.run.db.after (facing faults))).2.2 := by
  have did := (Console.executeLine_does (h.facing faults).counted text).did
  rw [did, ← Database.after_append, ← Console.under_of_constant constant]
  exact Run.db_steps _ _

theorem db_close (h : desk.console.Stands desk.run.db) {faults : List Faults}
    (constant : faults.length ≤ 1) : (desk.turn (.close faults)).run.db =
      (desk.console.close (desk.run.db.after (facing faults))).2.2 := by
  have did := (Console.close_does (h.facing faults).counted).did
  rw [did, ← Database.after_append, ← Console.under_of_constant constant]
  exact Run.db_steps _ _

theorem console_line (desk : Desk) (text : String) (faults : List Faults) :
    (desk.turn (.line text faults)).console =
      (Console.perform (command text) desk.console (desk.run.db.after (facing faults))).2.1 := by
  simp only [Desk.turn, next, Console.executeLine_eq]

theorem run_line (desk : Desk) (text : String) (faults : List Faults) :
    (desk.turn (.line text faults)).run.db =
      desk.run.db.after (under faults ((command text).actions desk.console)) := by
  rw [← Console.lineActions_eq]
  exact Run.db_steps _ _

structure Tallies (desk : Desk) (text : String) (faults : List Faults) : Prop where
  console : (desk.turn (.line text faults)).console =
    (desk.console.executeLine text (desk.run.db.after (facing faults))).2.1
  db : faults.length ≤ 1 → (desk.turn (.line text faults)).run.db =
    (desk.console.executeLine text (desk.run.db.after (facing faults))).2.2
  still : (command text).isStill = true → (desk.turn (.line text faults)).console = desk.console
  begun : command text = .begin →
    (desk.console.executeLine text (desk.run.db.after (facing faults))).1.toBool = true →
    ∃ ref, (desk.turn (.line text faults)).console.scopes = ref :: desk.console.scopes
  failed : command text = .begin →
    (desk.console.executeLine text (desk.run.db.after (facing faults))).1.toBool = false →
    (desk.turn (.line text faults)).console = desk.console ∧ ∀ ref ∈ desk.console.scopes,
      (desk.turn (.line text faults)).run.db.depth ref = desk.run.db.depth ref
  left : ∀ action top below, command text = .leave action → desk.console.scopes = top :: below →
    (desk.turn (.line text faults)).console.scopes = below ∧
      (desk.turn (.line text faults)).run.db.depth top = desk.run.db.depth top - 1

theorem tallies (h : desk.console.Stands desk.run.db) (text : String) (faults : List Faults) :
    desk.Tallies text faults where
  console := by rw [console_line, Console.executeLine_eq]
  db constant := db_line h text constant
  still still := by
    rw [console_line]
    exact Console.kept_perform still desk.console _
  begun asked ok := by
    rw [Console.executeLine_eq, asked] at ok
    rw [console_line, asked]
    exact Console.scopes_begin ok
  failed asked refused := by
    rw [Console.executeLine_eq, asked] at refused
    rw [console_line, run_line, asked]
    exact ⟨((h.facing faults).begin.2 refused).1, h.under_begin refused⟩
  left action top below asked scopes := by
    have same : desk.console = ⟨top :: below⟩ := by rw [← scopes]
    rw [console_line, run_line, asked]
    refine ⟨?_, (h.under_leave scopes action faults).2⟩
    rw [same, Console.perform_leave]
    rfl

theorem turn_close (h : desk.console.Stands desk.run.db) (faults : List Faults) :
    let desk' := desk.turn (.close faults)
    (faults.length ≤ 1 →
        desk'.run.db = (desk.console.close (desk.run.db.after (facing faults))).2.2) ∧
      desk'.console.scopes = [] :=
  ⟨db_close h, rfl⟩

structure Finishes (desk : Desk) (turn : Turn) (ref : Nat) : Prop where
  asked : ∃ text faults, turn = .line text faults ∧
    (command text = .finish .commit ∨ command text = .leave .commit)
  scopes : desk.console.scopes = [ref]
  whole : (desk.run.db.transaction ref).rolledBack = false

theorem committed_under {run : Run} {before : List String} (consistent : run.Consistent before)
    {action : Action} {later : List Action} (quiet : ∀ action ∈ later, action.commits = false)
    {faults : List Faults} (mem : .marked (.root ref) .committed ∈
      (run.steps (under faults (action :: later))).history) :
    .marked (.root ref) .committed ∈ run.history ∨ run.Commits ref action := by
  rw [under, Run.steps_append] at mem
  have faced := consistent.steps (facing faults)
  have same : (run.steps (facing faults)).history = run.history := by
    cases faults <;> rfl
  have entries : (run.steps (facing faults)).db.entries = run.db.entries := by
    rw [Run.db_steps]
    exact Console.entries_facing faults run.db
  have first := (faced.effect (faced.backed.effect action)).of_committed_quiet
    (Console.forall_under (fun _ => rfl) quiet faults.tail) mem
  rcases faced.of_committed first with old | ⟨call, params, about, which, root⟩
  · exact .inl (same ▸ old)
  · refine .inr ⟨call, params, about, which, ?_⟩
    rw [Database.transaction, entries] at root
    exact root

theorem quiet_line {text : String}
    (other : ¬(command text = .finish .commit ∨ command text = .leave .commit)) (console : Console) :
    ∀ action ∈ console.lineActions text, action.commits = false := by
  rw [Console.lineActions_eq]
  generalize command text = asked at other
  refine Console.Command.forall_actions (Action.commits · = false) (fun top call asks => ?_)
    (fun _ => rfl) rfl rfl (fun _ _ => rfl) (fun _ _ => rfl) console
  cases asks with
  | finish action | leave action =>
    cases action with
    | commit => simp at other
    | rollback => rfl
  | begin | fetch | execute => rfl

theorem quiet_close (console : Console) : ∀ action ∈ console.closeActions, action.commits = false := by
  intro action mem
  obtain ⟨top, _, mem⟩ := List.mem_flatMap.mp mem
  exact Console.forall_leaving (Action.commits · = false) rfl rfl action mem

theorem lineActions_of_committing {text : String} {console : Console}
    (asked : command text = .finish .commit ∨ command text = .leave .commit) :
    console.scopes = [] ∧ console.lineActions text = [] ∨
      ∃ top below call later, console.scopes = top :: below ∧
        console.lineActions text = .call top call [] :: later ∧
        ∀ action ∈ later, action.commits = false := by
  rw [Console.lineActions_eq]
  obtain ⟨scopes⟩ := console
  rcases scopes with _ | ⟨top, below⟩
  · refine .inl ⟨rfl, ?_⟩
    rcases asked with asked | asked <;> rw [asked] <;> rfl
  · rcases asked with asked | asked
    · exact .inr ⟨top, below, _, [], rfl, by rw [asked]; rfl, nofun⟩
    · exact .inr ⟨top, below, _, [.drop top], rfl, by rw [asked]; rfl,
        List.forall_mem_singleton.mpr rfl⟩

theorem committed_turn {before : List String} (consistent : desk.run.Consistent before)
    (h : desk.console.Stands desk.run.db) {turn : Turn}
    (mem : .marked (.root ref) .committed ∈ (desk.turn turn).run.history) :
    .marked (.root ref) .committed ∈ desk.run.history ∨ desk.Finishes turn ref := by
  have quiet {actions : List Action} (quiet : ∀ action ∈ actions, action.commits = false)
      {faults : List Faults}
      (mem : .marked (.root ref) .committed ∈ (desk.run.steps (under faults actions)).history) :
      .marked (.root ref) .committed ∈ desk.run.history :=
    consistent.of_committed_quiet (Console.forall_under (fun _ => rfl) quiet faults) mem
  cases turn with
  | line text faults =>
    simp only [Desk.turn, actions] at mem
    by_cases asked : command text = .finish .commit ∨ command text = .leave .commit
    · rcases lineActions_of_committing asked with
        ⟨_, nothing⟩ | ⟨top, below, call, later, scopes, does, rest⟩
      · rw [nothing] at mem
        exact .inl (quiet (List.forall_mem_nil _) mem)
      · rw [does] at mem
        rcases committed_under consistent rest mem with old | ⟨_, _, same, _, root, whole⟩
        · exact .inl old
        · cases same
          have one := h.length_scopes scopes
          have none : desk.run.db.depth ref = 0 := List.length_eq_zero_iff.mpr root
          rw [scopes, none, List.length_cons] at one
          have bottom : below = [] := List.length_eq_zero_iff.mp (by omega)
          exact .inr ⟨⟨text, faults, rfl, asked⟩, by rw [scopes, bottom], whole⟩
    · exact .inl (quiet (quiet_line asked desk.console) mem)
  | close faults =>
    simp only [Desk.turn, actions] at mem
    exact .inl (quiet (quiet_close desk.console) mem)
  | expire ref openFor => exact .inl mem
  | answer sql rows => exact .inl mem

theorem committed_turns {before : List String} (consistent : desk.run.Consistent before)
    (h : desk.console.Stands desk.run.db) {turns : List Turn}
    (mem : .marked (.root ref) .committed ∈ (desk.turns turns).run.history) :
    .marked (.root ref) .committed ∈ desk.run.history ∨
      ∃ earlier turn later, turns = earlier ++ turn :: later ∧
        (desk.turns earlier).Finishes turn ref ∧
        .marked (.root ref) .committed ∉ (desk.turns earlier).run.history ∧
        .marked (.root ref) .committed ∈ ((desk.turns earlier).turn turn).run.history := by
  induction turns generalizing desk with
  | nil => exact .inl mem
  | cons turn turns ih =>
    by_cases old : .marked (.root ref) .committed ∈ desk.run.history
    · exact .inl old
    · rcases ih (consistent.steps (desk.actions turn)) (stands_turn h turn) mem with
        now | ⟨earlier, other, later, split, found⟩
      · rcases committed_turn consistent h now with old' | finishes
        · exact .inl old'
        · exact .inr ⟨[], turn, turns, rfl, finishes, old, now⟩
      · exact .inr ⟨turn :: earlier, other, later, by rw [split]; rfl, found⟩

/-- At all times all handles of a console are of one transaction, which is as deep as there are handles
besides the first. Only lines that begin or leave take part in that. A begin that fails changes neither the
handles nor the levels, and to leave takes one handle and one level, if there is one, whether it succeeds
or not. Once the console is closed nothing is open any more, and each connection that was opened is idle
or was thrown away. Of all transactions only those are published that a line finished which was entered
with one handle, and that were not rolled back. -/
theorem piles_of_turns (server : Server) (settings : Settings) (turns : List Turn) :
    let first := start server settings
    let desk := first.turns turns
    let scopes := desk.console.scopes
    desk.run = (Run.start server settings).steps (first.allActions turns) ∧
      desk.console.Alike ∧
      (∀ ref ∈ scopes, scopes.length = desk.run.db.depth ref + 1) ∧
      (∀ text faults, desk.Tallies text faults) ∧
      (∀ faults,
        let desk' := desk.turn (.close faults)
        (faults.length ≤ 1 →
            desk'.run.db = (desk.console.close (desk.run.db.after (facing faults))).2.2) ∧
          desk'.console.scopes = [] ∧
          desk'.run.Vacant
            ((Run.start server settings).discards (first.allActions (turns ++ [.close faults])))) ∧
      desk.run.db.backend.server.journal = server.journal ++ published desk.run.history ∧
      ∀ holder, .marked holder .committed ∈ desk.run.history →
        ∃ ref earlier turn later, holder = .root ref ∧ turns = earlier ++ turn :: later ∧
          (first.turns earlier).Finishes turn ref ∧
          .marked holder .committed ∉ (first.turns earlier).run.history ∧
          .marked holder .committed ∈ ((first.turns earlier).turn turn).run.history := by
  intro first desk scopes
  have run : desk.run = (Run.start server settings).steps (first.allActions turns) :=
    run_turns first turns
  have stands : desk.console.Stands desk.run.db := stands_turns (stands_start server settings) turns
  have begins : first.run.Consistent server.journal := Run.start_consistent server settings
  have consistent : desk.run.Consistent server.journal := by
    rw [run]
    exact begins.steps _
  refine ⟨run, stands.alike, stands.depth, tallies stands, fun faults => ?_, consistent.journal,
    fun holder mem => ?_⟩
  · have closed := stands_turn stands (.close faults)
    have all := first.run_turns (turns ++ [.close faults])
    rw [turns_append] at all
    obtain ⟨does, bare⟩ := turn_close stands faults
    refine ⟨does, bare, ?_⟩
    exact Run.vacant_of_unheld server settings (plain_allActions _ first) all.symm closed.unlent
      closed.handles
  · cases holder with
    | handOpened ref =>
      have none : desk.run.db.standing (.handOpened ref) = none := by
        rw [Database.standing, stands.unlent.serverTransactions]
        rfl
      exact ((consistent.unknown _ none).unmarked _ mem).elim
    | root ref =>
      rcases committed_turns begins (stands_start server settings) mem with
        old | ⟨earlier, turn, later, split, found⟩
      · cases old
      · exact ⟨ref, earlier, turn, later, rfl, split, found⟩

example :
    let desk := (start .empty .standard).turns
      [.line "BEGIN" [], .line "begin;" [], .line "AUTOROLLBACK" [⟨0, false, false, false, true⟩]]
    let desk' := desk.turn (.close [])
    desk.console.scopes = [0] ∧ desk.run.db.depth 0 = 0 ∧ desk'.console.scopes = [] ∧
      desk'.run.db.backend.pool.created = 0 := by decide +kernel

end Desk

end NestedTx
