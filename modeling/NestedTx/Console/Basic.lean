import NestedTx.Console.Output
import NestedTx.Database.Statements

namespace NestedTx

structure Console where
  scopes : List Nat
deriving DecidableEq, Repr

namespace Console

def new : Console := ⟨[]⟩

def depth (console : Console) : Nat := console.scopes.length

def help : String := "\n".intercalate
  ["Transaction commands:",
    "  BEGIN                   Open a transaction (nested if one is open)",
    "  COMMIT                  Commit the current scope (for real at the root)",
    "  ROLLBACK                Roll back the whole transaction",
    "  AUTOCOMMIT              Leave the current scope, committing if it is the root",
    "  AUTOROLLBACK            Leave the current scope, rolling back unless finished",
    "  STATUS                  Show transaction and pool state",
    "",
    "Commands:",
    "  .help, .h, .?           Show this help message",
    "  .status                 Same as STATUS",
    "  .quit, .exit, .q        Exit the console",
    "",
    "Anything else is run as SQL."]

abbrev Step := Except DatabaseError Output × Console × Database

def begin (console : Console) (db : Database) : Step :=
  let message := fun (console : Console) =>
    Output.message ("BEGIN (depth " ++ toString console.depth ++ ")")
  match console.scopes with
  | top :: _ =>
    match db.beginNested top with
    | (.error error, db) => (.error (.transaction error), console, db)
    | (.ok _, db) =>
      let console : Console := ⟨top :: console.scopes⟩
      (.ok (message console), console, db)
  | [] =>
    match db.begin with
    | (.error error, db) => (.error (.transaction error), console, db)
    | (.ok ref, db) =>
      let console : Console := ⟨[ref]⟩
      (.ok (message console), console, db)

def decide (finish : Nat → Database → Except TransactionError Unit × Database) (message : String)
    (console : Console) (db : Database) : Step :=
  match console.scopes with
  | [] => (.error .noTransaction, console, db)
  | top :: _ =>
    match finish top db with
    | (.error error, db) => (.error (.transaction error), console, db)
    | (.ok _, db) => (.ok (.message message), console, db)

def leave (action : ExitAction) (verb : String) (console : Console) (db : Database) : Step :=
  match console.scopes with
  | [] => (.error .noTransaction, console, db)
  | top :: below =>
    match db.exit action top with
    | (result, db) =>
      let output := Output.message (verb ++ " (depth " ++ toString below.length ++ ")")
      ((result.mapError .transaction).map fun _ => output, ⟨below⟩, db.drop top)

def status (console : Console) (db : Database) : Step :=
  match db.stats with
  | (stats, db) =>
    (.ok (.status console.depth (console.scopes.head?.map fun ref => (db.transaction ref).snapshot)
      stats), console, db)

def target (console : Console) : Target :=
  match console.scopes with
  | top :: _ => .transaction top
  | [] => .database

def runSql (sql : String) (console : Console) (db : Database) : Step :=
  match kindOf sql with
  | .error error => (.error (.query error), console, db)
  | .ok .read =>
    match db.fetch console.target sql [] with
    | (result, db) => ((result.mapError .query).map .rows, console, db)
  | .ok _ =>
    match db.execute console.target sql [] with
    | (result, db) => ((result.mapError .query).map .affected, console, db)

def dotCommand (command : List Char) (console : Console) (db : Database) : Step :=
  let name := Text.lower (String.ofList (command.dropWhile (· == '.')))
  if ["help", "h", "?"].contains name then (.ok (.message help), console, db)
  else if ["quit", "exit", "q"].contains name then (.ok .exit, console, db)
  else if name = "status" then console.status db
  else
    (.ok (.message ("Unknown command: ." ++ name ++ "\nType .help for available commands")),
      console, db)

def executeLine (line : String) (console : Console) (db : Database) : Step :=
  let chars := Text.statementChars line.toList
  match chars with
  | [] => (.ok .empty, console, db)
  | '.' :: _ => console.dotCommand chars db
  | _ =>
    let word := String.ofList (Text.upperKey chars)
    if word = "BEGIN" then console.begin db
    else if word = "COMMIT" then console.decide Database.commit "COMMIT" db
    else if word = "ROLLBACK" then console.decide Database.rollback "ROLLBACK" db
    else if word = "AUTOCOMMIT" then console.leave .commit "AUTOCOMMIT" db
    else if word = "AUTOROLLBACK" then console.leave .rollback "AUTOROLLBACK" db
    else if word = "STATUS" then console.status db
    else console.runSql (String.ofList chars) db

def closeFrom : List Nat → Database → List TransactionError × Database
  | [], db => ([], db)
  | top :: below, db =>
    match db.exit .rollback top with
    | (result, db) =>
      match closeFrom below (db.drop top) with
      | (errors, db) =>
        match result with
        | .ok _ => (errors, db)
        | .error error => (error :: errors, db)

def close (console : Console) (db : Database) : List TransactionError × Console × Database :=
  match closeFrom console.scopes db with
  | (errors, db) => (errors, new, db)

end Console

end NestedTx
