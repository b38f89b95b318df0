import NestedTx.Console.Run
import NestedTx.Database.Reachability

namespace NestedTx

namespace CommandLine

structure Options where
  config : Option String
  strict : Bool
  grace : Option Nat
  verbose : Bool
  execute : Option String
deriving DecidableEq, Repr

def Options.initial : Options := ⟨none, false, none, false, none⟩

inductive Request
  | run (options : Options)
  | help
  | version
  | badGrace
  | unknown (option : String)
deriving DecidableEq, Repr

def seconds? (text : String) : Option Nat :=
  let digits := match text.toList with
    | '+' :: rest => rest
    | cs => cs
  if digits.isEmpty || !digits.all Char.isDigit then none
  else
    let n := Nat.ofDigitChars 10 digits 0
    if n < UInt64.size then some n else none

def request (options : Options) : List String → Request
  | [] => .run options
  | arg :: rest =>
    if arg = "-c" || arg = "--config" then
      match rest with
      | [] => .run options
      | path :: rest => request { options with config := some path } rest
    else if arg = "--strict" then request { options with strict := true } rest
    else if arg = "--grace" then
      match rest with
      | [] => .badGrace
      | text :: rest =>
        match seconds? text with
        | none => .badGrace
        | some n => request { options with grace := some n } rest
    else if arg = "-v" || arg = "--verbose" then request { options with verbose := true } rest
    else if arg = "-e" || arg = "--execute" then
      match rest with
      | [] => .run options
      | commands :: rest => request { options with execute := some commands } rest
    else if arg = "-h" || arg = "--help" then .help
    else if arg = "--version" then .version
    else .unknown arg

def help : String := "\n".intercalate
  ["txnest - nested transaction console",
    "",
    "Usage: txnest [OPTIONS]",
    "",
    "Options:",
    "  -c, --config PATH      Load database settings from a JSON file",
    "  --strict               Treat leaks and failed auto-commits as fatal",
    "  --grace SECS           Leak grace period in seconds (default: 60)",
    "  -e, --execute CMDS     Run ';'-separated commands and exit",
    "  -v, --verbose          Log every transaction transition",
    "  -h, --help             Show this help message",
    "  --version              Show version",
    "",
    "Examples:",
    "  txnest                                          Start the console",
    "  txnest -e 'BEGIN; BEGIN; AUTOCOMMIT; STATUS'    Run commands and exit",
    ""]

def Options.apply (options : Options) (settings : Settings) : Settings :=
  let settings := if options.verbose then settings.withVerbose true else settings
  let settings := if options.strict then settings.withStrict true else settings
  match options.grace with
  | some n => settings.withLeakGrace (.ofSeconds n)
  | none => settings

def Options.database (options : Options) (file : String → Option ByteArray) :
    Except (List Printed) Database :=
  let loaded : Except (List Printed) Settings := match options.config with
    | none => .ok Settings.standard
    | some path =>
      (Settings.load (file path)).mapError fun error =>
        [Printed.err ("Error loading config " ++ path ++ ": " ++ error.message ++ "\n")]
  match loaded with
  | .error printed => .error printed
  | .ok settings =>
    match Database.open? .empty (options.apply settings) with
    | .error error => .error [.err ("Error opening database: " ++ error.message ++ "\n")]
    | .ok db =>
      match db.ensureReachable with
      | (.ok _, db) => .ok db
      | (.error error, _) => .error [.error error.message]

def executeAll : List (List Char) → Console → Database → List Printed × Bool × Console × Database
  | [], console, db => ([], true, console, db)
  | command :: commands, console, db =>
    let before := db.alarms.length
    match console.executeLine (String.ofList command) db with
    | (result, console, db) =>
      if before < db.alarms.length then ([], false, console, db)
      else
        match result with
        | .error error => ([.error error.message], false, console, db)
        | .ok .exit => ([], true, console, db)
        | .ok output =>
          match executeAll commands console db with
          | (printed, success, console, db) => (.out output.render :: printed, success, console, db)

def execute (commands : String) (console : Console) (db : Database) : List Printed × Bool :=
  match executeAll (Text.pieces ';' commands.toList) console db with
  | (printed, true, console, db) => (printed ++ (console.closePrinting db).1, true)
  | (printed, false, _, _) => (printed, false)

def completeLines (input : List UInt8) : List (List UInt8) :=
  (inputLines input).filter fun line => line.getLast? = some 10

def report : List Printed × Console.Stop × Console × Database → List Printed × Bool
  | (printed, .input cause, _, _) => (printed ++ [.error (DatabaseError.input cause).message], false)
  | (printed, .alarm, _, _) => (printed, false)
  | (printed, .left, _, _) => (printed, true)
  | (printed, .endOfInput, _, _) => (printed, true)

/-- Run the console on input. Where the input is held open behind its last line, the program waits
until the watchdog of a forgotten transaction ends it. -/
def interact (hold : Bool) (input : List UInt8) (console : Console) (db : Database) :
    List Printed × Bool :=
  if hold then
    match console.answerAll true (completeLines input) db with
    | (printed, .endOfInput, _, _) => (.out Console.banner :: printed, false)
    | answered =>
      match report (Console.finish answered) with
      | (printed, success) => (.out Console.banner :: printed, success)
  else report (console.run true input db)

inductive Start where
  | done (printed : List Printed) (success : Bool)
  | console (db : Database)

def start (args : List String) (file : String → Option ByteArray) : Start :=
  match request .initial args with
  | .help => .done [.out help] true
  | .version => .done [.out NestedTx.version] true
  | .badGrace => .done [.err "--grace expects a number of seconds\n"] false
  | .unknown option => .done [.err ("Unknown option: " ++ option ++ "\n")] false
  | .run options =>
    match options.database file with
    | .error printed => .done printed false
    | .ok db =>
      match options.execute with
      | some commands =>
        match execute commands .new db with
        | (printed, success) => .done printed success
      | none => .console db

def run (args : List String) (file : String → Option ByteArray) (input : List UInt8) (hold : Bool) :
    List Printed × Bool :=
  match start args file with
  | .done printed success => (printed, success)
  | .console db => interact hold input .new db

end CommandLine

end NestedTx
