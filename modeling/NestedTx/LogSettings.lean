namespace NestedTx

inductive LogFormat
  | pretty
  | compact
deriving DecidableEq, Repr

structure LogSettings where
  filter : String
  format : LogFormat
deriving DecidableEq, Repr

namespace LogSettings

def warn : LogSettings := ⟨"warn", .compact⟩
def info : LogSettings := ⟨"info", .compact⟩
def debug : LogSettings := ⟨"debug", .compact⟩

def standard : LogSettings := warn

def withFilter (filter : String) (settings : LogSettings) : LogSettings := { settings with filter }

def withFormat (format : LogFormat) (settings : LogSettings) : LogSettings := { settings with format }

def levels : List String :=
  ["off", "error", "warn", "info", "debug", "trace", "0", "1", "2", "3", "4", "5"]

def levelPart (directive : String) : Option String :=
  let part := directive.toList.reverse.takeWhile (· ≠ '=')
  if part.length = directive.length then none else some (String.ofList part.reverse)

def isDirective (directive : String) : Bool :=
  match levelPart directive with
  | none => true
  | some level => levels.contains level.toLower

def isValid (settings : LogSettings) : Bool :=
  (settings.filter.splitOn ",").all isDirective

def refusal (settings : LogSettings) : String :=
  "invalid log filter '" ++ settings.filter ++ "': invalid filter directive"

end LogSettings

end NestedTx
