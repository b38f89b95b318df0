import NestedTx.Console.Basic

namespace NestedTx

inductive Printed
  | out (text : String)
  | err (text : String)
deriving DecidableEq, Repr

def Printed.outText (printed : List Printed) : String :=
  "".intercalate (printed.filterMap fun | .out text => some text | .err _ => none)

def Printed.errText (printed : List Printed) : String :=
  "".intercalate (printed.filterMap fun | .err text => some text | .out _ => none)

def Printed.error (message : String) : Printed := .err ("Error: " ++ message ++ "\n")

def inputLines : List UInt8 → List (List UInt8)
  | [] => []
  | byte :: rest =>
    if byte = 10 then [byte] :: inputLines rest
    else
      match inputLines rest with
      | [] => [[byte]]
      | line :: lines => (byte :: line) :: lines

def version : String := "txnest v0.1.0\n"

namespace Console

def banner : String := version ++ "Type .help for commands, or enter SQL statements\n\n"

def prompt : String := "txnest> "

def farewell : String := "\nGoodbye!\n"

inductive Stop
  | endOfInput
  | left
  | input (cause : InputError)
  | alarm
deriving DecidableEq, Repr

def answer (fatal : Bool) (line : List UInt8) (console : Console) (db : Database) :
    List Printed × Option Stop × Console × Database :=
  match String.fromUTF8? ⟨line.toArray⟩ with
  | none => ([], some (.input .notText), console, db)
  | some text =>
    let before := db.alarms.length
    match console.executeLine text db with
    | (result, console, db) =>
      if fatal && before < db.alarms.length then ([], some .alarm, console, db)
      else
        match result with
        | .ok .exit => ([], some .left, console, db)
        | .ok output => ([.out output.render], none, console, db)
        | .error error => ([.error error.message], none, console, db)

def answerAll (fatal : Bool) : List (List UInt8) → Console → Database →
    List Printed × Stop × Console × Database
  | [], console, db => ([.out prompt], .endOfInput, console, db)
  | line :: lines, console, db =>
    match console.answer fatal line db with
    | (printed, some stop, console, db) => (.out prompt :: printed, stop, console, db)
    | (printed, none, console, db) =>
      match answerAll fatal lines console db with
      | (others, stop, console, db) => (.out prompt :: (printed ++ others), stop, console, db)

def closePrinting (console : Console) (db : Database) : List Printed × Console × Database :=
  match console.close db with
  | (errors, console, db) => (errors.map fun error => .error error.message, console, db)

def finish : List Printed × Stop × Console × Database → List Printed × Stop × Console × Database
  | (printed, .input cause, console, db) => (printed, .input cause, console, db)
  | (printed, .alarm, console, db) => (printed, .alarm, console, db)
  | (printed, .left, console, db) =>
    match console.closePrinting db with
    | (errors, console, db) => (printed ++ errors, .left, console, db)
  | (printed, .endOfInput, console, db) =>
    match console.closePrinting db with
    | (errors, console, db) => (printed ++ .out farewell :: errors, .endOfInput, console, db)

def run (fatal : Bool) (input : List UInt8) (console : Console) (db : Database) :
    List Printed × Stop × Console × Database :=
  match finish (console.answerAll fatal (inputLines input) db) with
  | (printed, stop, console, db) => (.out banner :: printed, stop, console, db)

end Console

end NestedTx
