import NestedTx.Proofs.Console.Actions

namespace NestedTx.Console

inductive Command
  | nothing
  | dot (text : List Char)
  | begin
  | finish (action : ExitAction)
  | leave (action : ExitAction)
  | status
  | sql (text : String)
deriving DecidableEq

def command (line : String) : Command :=
  let chars := Text.statementChars line.toList
  match chars with
  | [] => .nothing
  | '.' :: _ => .dot chars
  | _ =>
    let word := String.ofList (Text.upperKey chars)
    if word = "BEGIN" then .begin
    else if word = "COMMIT" then .finish .commit
    else if word = "ROLLBACK" then .finish .rollback
    else if word = "AUTOCOMMIT" then .leave .commit
    else if word = "AUTOROLLBACK" then .leave .rollback
    else if word = "STATUS" then .status
    else .sql (String.ofList chars)

def finishing : ExitAction → Transaction.Call
  | .commit => .commit
  | .rollback => .rollback

def perform : Command → Console → Database → Step
  | .nothing, console, db => (.ok .empty, console, db)
  | .dot text, console, db => console.dotCommand text db
  | .begin, console, db => console.begin db
  | .finish .commit, console, db => console.decide Database.commit "COMMIT" db
  | .finish .rollback, console, db => console.decide Database.rollback "ROLLBACK" db
  | .leave .commit, console, db => console.leave .commit "AUTOCOMMIT" db
  | .leave .rollback, console, db => console.leave .rollback "AUTOROLLBACK" db
  | .status, console, db => console.status db
  | .sql text, console, db => console.runSql text db

def Command.actions : Command → Console → List Action
  | .nothing, _ => []
  | .dot text, _ => dotActions text
  | .begin, console => console.ask .begin [.begin]
  | .finish action, console => console.ask (finishing action) []
  | .leave action, console => console.leaveActions action
  | .status, _ => [.prune]
  | .sql text, console => console.sqlActions text

theorem executeLine_eq (line : String) (console : Console) (db : Database) :
    console.executeLine line db = perform (command line) console db := by
  simp only [executeLine, command]
  generalize Text.statementChars line.toList = chars
  split
  · rfl
  · rfl
  · generalize String.ofList (Text.upperKey chars) = word
    simp only [apply_ite (perform · console db)]
    rfl

theorem lineActions_eq (line : String) (console : Console) :
    console.lineActions line = (command line).actions console := by
  simp only [lineActions, command]
  generalize Text.statementChars line.toList = chars
  split
  · rfl
  · rfl
  · generalize String.ofList (Text.upperKey chars) = word
    simp only [apply_ite (Command.actions · console)]
    rfl

inductive Command.Asks : Command → Transaction.Call → Prop
  | begin : Asks .begin .begin
  | finish (action : ExitAction) : Asks (.finish action) (finishing action)
  | leave (action : ExitAction) : Asks (.leave action) (.exit action)
  | fetch (text : String) : Asks (.sql text) (.fetch text)
  | execute (text : String) : Asks (.sql text) (.execute text)

section Actions

variable (p : Action → Prop)

theorem forall_ask {call : Transaction.Call} {otherwise : List Action}
    (called : ∀ top, p (.call top call [])) (apart : ∀ action ∈ otherwise, p action)
    (console : Console) : ∀ action ∈ console.ask call otherwise, p action := by
  simp only [ask]
  split
  · exact List.forall_mem_singleton.mpr (called _)
  · exact apart

theorem forall_leaving {action : ExitAction} {top : Nat} (called : p (.call top (.exit action) []))
    (dropped : p (.drop top)) : ∀ done ∈ leaving action top, p done :=
  List.forall_mem_cons.mpr ⟨called, List.forall_mem_singleton.mpr dropped⟩

theorem Command.forall_actions {asked : Command}
    (called : ∀ top call, asked.Asks call → p (.call top call [])) (dropped : ∀ top, p (.drop top))
    (begun : p .begin) (pruned : p .prune) (fetched : ∀ text, asked = .sql text → p (.fetch text []))
    (executed : ∀ text, asked = .sql text → p (.execute text [])) (console : Console) :
    ∀ action ∈ asked.actions console, p action := by
  cases asked with
  | nothing => exact List.forall_mem_nil p
  | dot text =>
    simp only [actions, dotActions]
    split
    · exact List.forall_mem_singleton.mpr pruned
    · exact List.forall_mem_nil p
  | begin =>
    exact forall_ask p (fun top => called top _ .begin) (List.forall_mem_singleton.mpr begun) console
  | finish action =>
    exact forall_ask p (fun top => called top _ (.finish action)) (List.forall_mem_nil p) console
  | leave action =>
    simp only [actions, leaveActions]
    split
    · exact forall_leaving p (called _ _ (.leave action)) (dropped _)
    · exact List.forall_mem_nil p
  | status => exact List.forall_mem_singleton.mpr pruned
  | sql text =>
    simp only [actions, sqlActions]
    split
    · exact List.forall_mem_nil p
    · exact forall_ask p (fun top => called top _ (.fetch text))
        (List.forall_mem_singleton.mpr (fetched text rfl)) console
    · exact forall_ask p (fun top => called top _ (.execute text))
        (List.forall_mem_singleton.mpr (executed text rfl)) console

end Actions

end NestedTx.Console
