import NestedTx.Sql.Token
import NestedTx.Sql.Tree

namespace NestedTx.Sql

abbrev Grammar := StateT (List Token) (Except ParseError)

namespace Grammar

variable {α : Type}

def fail : Grammar α := fun tokens => .error (.unexpected tokens.head?)

def peek : Grammar (Option Token) := fun tokens => .ok (tokens.head?, tokens)

def next : Grammar Token
  | [] => .error (.unexpected none)
  | token :: rest => .ok (token, rest)

def startsWith (key : String) : List Token → Bool
  | .word _ k :: _ => k == key
  | _ => false

def afterKeywords : List String → List Token → Option (List Token)
  | [], tokens => some tokens
  | key :: keys, .word _ k :: rest => if k == key then afterKeywords keys rest else none
  | _ :: _, _ => none

def peekKeyword (key : String) : Grammar Bool := fun tokens => .ok (startsWith key tokens, tokens)

def keywords (keys : List String) : Grammar Bool := fun tokens =>
  match afterKeywords keys tokens with
  | some rest => .ok (true, rest)
  | none => .ok (false, tokens)

def keyword (key : String) : Grammar Bool := keywords [key]

def oneOf (keys : List String) : Grammar (Option String) := fun tokens =>
  match tokens with
  | .word _ k :: rest => if keys.contains k then .ok (some k, rest) else .ok (none, tokens)
  | _ => .ok (none, tokens)

def expect (keys : List String) : Grammar Unit := do
  unless ← keywords keys do fail

def symbol (text : String) : Grammar Bool := fun tokens =>
  match tokens with
  | .symbol t :: rest => if t == text then .ok (true, rest) else .ok (false, tokens)
  | _ => .ok (false, tokens)

def peekSymbol (text : String) : Grammar Bool := fun tokens =>
  match tokens with
  | .symbol t :: _ => .ok (t == text, tokens)
  | _ => .ok (false, tokens)

def expectSymbol (text : String) : Grammar Unit := do
  unless ← symbol text do fail

/-- Try a grammar; if it fails, no token is taken. Nesting that is too deep fails for good. -/
def attempt (p : Grammar α) : Grammar (Option α) := fun tokens =>
  match p tokens with
  | .ok (value, rest) => .ok (some value, rest)
  | .error .tooDeep => .error .tooDeep
  | .error _ => .ok (none, tokens)

def furtherParts (p : Grammar α) : Nat → Grammar (List α)
  | 0 => pure []
  | fuel + 1 => do
    if ← symbol "," then
      let part ← p
      return part :: (← furtherParts p fuel)
    else return []

def commaList (p : Grammar α) : Grammar (List α) := do
  let first ← p
  let tokens ← get
  return first :: (← furtherParts p tokens.length)

def manyFrom (p : Grammar (Option α)) : Nat → Grammar (List α)
  | 0 => pure []
  | fuel + 1 => do
    match ← p with
    | some part => return part :: (← manyFrom p fuel)
    | none => return []

def many (p : Grammar (Option α)) : Grammar (List α) := do
  let tokens ← get
  manyFrom p (tokens.length + 1)

def after (keys : List String) (p : Grammar α) : Grammar (Option α) := do
  if ← keywords keys then return some (← p) else return none

def parens (p : Grammar α) : Grammar α := do
  expectSymbol "("
  let part ← p
  expectSymbol ")"
  return part

def identifier : Grammar String
  | .word text _ :: rest => .ok (text, rest)
  | .string text :: rest => .ok (text, rest)
  | tokens => .error (.unexpected tokens.head?)

def furtherNames : Nat → Grammar (List String)
  | 0 => pure []
  | fuel + 1 => do
    if ← symbol "." then
      let name ← identifier
      return name :: (← furtherNames fuel)
    else return []

def objectName : Grammar String := do
  let first ← identifier
  let tokens ← get
  return ".".intercalate (first :: (← furtherNames tokens.length))

def columnNames : Grammar (List String) := parens (commaList identifier)

def optionalColumns : Grammar (List String) := do
  if ← peekSymbol "(" then columnNames else return []

def literal : Grammar Expr := fun tokens =>
  match tokens with
  | .number text :: rest => .ok (.leaf text, rest)
  | .string text :: rest => .ok (.leaf text, rest)
  | .placeholder text :: rest => .ok (.leaf text, rest)
  | .symbol ":" :: .word text _ :: rest => .ok (.leaf text, rest)
  | .symbol ":" :: .number text :: rest => .ok (.leaf text, rest)
  | .word text key :: rest =>
    if key == "TRUE" || key == "FALSE" || key == "NULL" then .ok (.leaf text, rest)
    else .error (.unexpected tokens.head?)
  | _ => .error (.unexpected tokens.head?)

def restOfStatement : Nat → Nat → List Token → List Token
  | 0, _, tokens => tokens
  | _, _, [] => []
  | fuel + 1, depth, .symbol t :: rest =>
    if t == ";" then .symbol t :: rest
    else if t == "(" then restOfStatement fuel (depth + 1) rest
    else if t == ")" then
      if depth = 0 then .symbol t :: rest else restOfStatement fuel (depth - 1) rest
    else restOfStatement fuel depth rest
  | fuel + 1, depth, _ :: rest => restOfStatement fuel depth rest

def skipRest : Grammar Unit := fun tokens =>
  .ok ((), restOfStatement (tokens.length + 1) 0 tokens)

end Grammar

structure Nested where
  expr : Nat → Grammar Expr
  query : Grammar Query
  statement : Grammar Statement

def Nested.expression (below : Nested) : Grammar Expr := below.expr 0

def Nested.none : Nested where
  expr _ _ := .error .tooDeep
  query _ := .error .tooDeep
  statement _ := .error .tooDeep

end NestedTx.Sql
