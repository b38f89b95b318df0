import NestedTx.CommandLine
import NestedTx.Database.Watch

namespace NestedTx

def write (printed : List Printed) : IO Unit := do
  let out ← IO.getStdout
  let err ← IO.getStderr
  for piece in printed do
    match piece with
    | .out text => out.putStr text
    | .err text => err.putStr text
  out.flush

def now : IO Duration := return .ofMillis (← IO.monoMsNow)

partial def readLine (line : List UInt8) : IO (List UInt8) := do
  match (← (← IO.getStdin).read 1).toList with
  | [] => return line.reverse
  | byte :: _ => if byte = 10 then return (byte :: line).reverse else readLine (byte :: line)

def leave (stop : Console.Stop) (console : Console) (db : Database) : IO UInt32 := do
  let (printed, success) := CommandLine.report (Console.finish ([], stop, console, db))
  write printed
  return if success then 0 else 1

partial def converse (console : Console) (db : Database) (watch : Watch) : IO UInt32 := do
  write [.out Console.prompt]
  let line ← readLine []
  let time ← now
  let watched := watch.expire time db
  if db.alarms.length < watched.alarms.length then leave .alarm console watched
  else
    match line with
    | [] => leave .endOfInput console watched
    | line =>
      match console.answer true line watched with
      | (printed, stop, console, db) => do
        write printed
        match stop with
        | some stop => leave stop console db
        | none => converse console db (watch.observe time db)

def settingsFile (args : List String) : IO (String → Option ByteArray) := do
  match CommandLine.request .initial args with
  | .run options =>
    match options.config with
    | some path =>
      try
        let bytes ← IO.FS.readBinFile path
        return fun p => if p = path then some bytes else none
      catch _ => return fun _ => none
    | none => return fun _ => none
  | _ => return fun _ => none

end NestedTx

def main (args : List String) : IO UInt32 := do
  match NestedTx.CommandLine.start args (← NestedTx.settingsFile args) with
  | .done printed success => do
    NestedTx.write printed
    return if success then 0 else 1
  | .console db => do
    NestedTx.write [.out NestedTx.Console.banner]
    NestedTx.converse .new db .empty
