import NestedTx.Sql.Grammar.Basic

/-!
Expressions: a first part, then operators in order of their strength. The grammars here read one
level of nesting and take the deeper parts from the level below.
-/

namespace NestedTx.Sql.Grammar

def orStrength : Nat := 5
def andStrength : Nat := 10
def notStrength : Nat := 15
def isStrength : Nat := 17
def likeStrength : Nat := 19
def comparisonStrength : Nat := 20
def sumStrength : Nat := 30
def productStrength : Nat := 40
def timeZoneStrength : Nat := 41
def castStrength : Nat := 50

def symbolStrength (text : String) : Nat :=
  if ["=", "==", "<>", "!=", "<", "<=", ">", ">=", "<=>", ":="].contains text then comparisonStrength
  else if ["~", "~*", "!~", "!~*", "~~", "~~*", "!~~", "!~~*"].contains text then likeStrength
  else if text == "|" then 21
  else if ["^", "<<", ">>"].contains text then 22
  else if text == "&" then 23
  else if ["+", "-"].contains text then sumStrength
  else if ["*", "/", "%", "||"].contains text then productStrength
  else if ["::", "[", "!", "&&"].contains text then castStrength
  else if ["->", "->>", "@>", "<@", "@?", "@@", "#>", "#>>", "#-"].contains text then 16
  else 0

def negatableStrength (key : String) : Nat :=
  if ["IN", "BETWEEN"].contains key then comparisonStrength
  else if ["LIKE", "ILIKE", "SIMILAR", "RLIKE", "REGEXP"].contains key then likeStrength
  else 0

def operatorStrength : List Token → Nat
  | .symbol text :: _ => symbolStrength text
  | .word _ key :: rest =>
    if key == "OR" then orStrength
    else if key == "AND" then andStrength
    else if key == "XOR" then 24
    else if key == "IS" then isStrength
    else if key == "OVERLAPS" then comparisonStrength
    else if key == "DIV" then productStrength
    else if key == "COLLATE" then 42
    else if key == "AT" then
      match afterKeywords ["TIME", "ZONE"] rest with
      | some _ => timeZoneStrength
      | none => 0
    else if key == "NOT" then
      match rest with
      | .word _ k :: _ => negatableStrength k
      | _ => 0
    else negatableStrength key
  | _ => 0

def queryAhead : Grammar Bool := fun tokens =>
  .ok (startsWith "SELECT" tokens || startsWith "WITH" tokens, tokens)

def typeBounds : Grammar Unit := do
  if ← symbol "(" then
    let _ ← commaList do
      match ← next with
      | .symbol text => if text == "(" || text == ")" || text == "," then fail
      | _ => pure ()
      let _ ← many do
        match ← peek with
        | some (.word _ _) => some <$> next
        | _ => return none
    expectSymbol ")"

def typeBrackets : Grammar Unit := do
  let _ ← many do
    if ← symbol "[" then
      match ← peek with
      | some (.number _) => let _ ← next
      | _ => pure ()
      expectSymbol "]"
      return some ()
    else return none

def innerTypes (p : Grammar Unit) : Grammar Unit := do
  if ← symbol "<" then
    let _ ← commaList p
    expectSymbol ">"

def dataTypeWithin : Nat → Grammar Unit
  | 0 => fail
  | depth + 1 => do
    match ← peek with
    | some (.word _ key) =>
      let _ ← objectName
      if key == "DOUBLE" then let _ ← keyword "PRECISION"
      else if ["CHARACTER", "CHAR"].contains key then
        if ← keyword "VARYING" then pure ()
        else if ← keywords ["LARGE", "OBJECT"] then pure ()
      else if ["ARRAY", "STRUCT", "MAP"].contains key then innerTypes (dataTypeWithin depth)
      typeBounds
      if ["TIMESTAMP", "TIME"].contains key then
        if ← keywords ["WITH", "TIME", "ZONE"] then pure ()
        else if ← keywords ["WITHOUT", "TIME", "ZONE"] then pure ()
      let _ ← keyword "UNSIGNED"
      typeBrackets
    | _ => fail

def dataType : Grammar Unit := dataTypeWithin 8

def literalTypes : List String :=
  ["DATE", "TIME", "TIMESTAMP", "TIMESTAMPTZ", "DATETIME", "INT", "INTEGER", "BIGINT", "SMALLINT",
    "TINYINT", "REAL", "FLOAT", "DOUBLE", "NUMERIC", "DECIMAL", "VARCHAR", "CHAR", "CHARACTER", "TEXT",
    "STRING", "BOOLEAN", "BOOL", "UUID", "JSON", "JSONB", "BYTEA", "BLOB", "BINARY", "VARBINARY"]

def typedLiteral : Grammar Expr := do
  match ← peek with
  | some (.word _ key) =>
    if literalTypes.contains key then
      dataType
      let value ← literal
      return .node key [value]
    else fail
  | _ => fail

def sortOrder : Grammar Unit := do
  let _ ← oneOf ["ASC", "DESC"]
  if ← keyword "NULLS" then
    match ← oneOf ["FIRST", "LAST"] with
    | some _ => pure ()
    | none => fail

def sortKey (below : Nested) : Grammar Expr := do
  let key ← below.expression
  sortOrder
  return key

def orderBy (below : Nested) : Grammar (List Expr) := do
  return (← after ["ORDER", "BY"] (commaList (sortKey below))).getD []

def frameBound (below : Nested) : Grammar (List Expr) := do
  if ← keywords ["CURRENT", "ROW"] then return []
  let distance ← if ← keyword "UNBOUNDED" then pure [] else do pure [← below.expression]
  match ← oneOf ["PRECEDING", "FOLLOWING"] with
  | some _ => return distance
  | none => fail

def windowSpec (below : Nested) : Grammar (List Expr) := parens do
  let _ ← attempt do
    match ← peek with
    | some (.word _ key) =>
      if ["PARTITION", "ORDER", "ROWS", "RANGE", "GROUPS"].contains key then fail else identifier
    | _ => fail
  let partition := (← after ["PARTITION", "BY"] (commaList below.expression)).getD []
  let order ← orderBy below
  let frame ← if (← oneOf ["ROWS", "RANGE", "GROUPS"]).isSome then
      if ← keyword "BETWEEN" then do
        let first ← frameBound below
        expect ["AND"]
        pure (first ++ (← frameBound below))
      else frameBound below
    else pure []
  return partition ++ order ++ frame

def argument (below : Nested) : Grammar Expr := do
  if ← symbol "*" then return .leaf "*"
  let named ← attempt do
    let name ← identifier
    unless ← symbol "=>" do expectSymbol ":="
    return name
  match named with
  | some name => return .node name [← below.expression]
  | none =>
    let wildcard ← attempt do
      let name ← objectName
      expectSymbol "."
      expectSymbol "*"
      return name
    match wildcard with
    | some name => return .leaf name
    | none => below.expression

def callArguments (below : Nested) : Grammar (List Expr) := do
  expectSymbol "("
  if ← symbol ")" then return []
  let _ ← oneOf ["DISTINCT", "ALL"]
  let arguments ← commaList (argument below)
  let order ← orderBy below
  let limit := (← after ["LIMIT"] below.expression).toList
  expectSymbol ")"
  return arguments ++ order ++ limit

def call (below : Nested) (name : String) : Grammar Expr := do
  let arguments ← callArguments below
  let within := (← after ["WITHIN", "GROUP"] (parens (orderBy below))).getD []
  let filter := (← after ["FILTER"] (parens do
    expect ["WHERE"]
    below.expression)).toList
  if ← keywords ["IGNORE", "NULLS"] then pure ()
  else if ← keywords ["RESPECT", "NULLS"] then pure ()
  let window ← if ← keyword "OVER" then
      if ← peekSymbol "(" then windowSpec below else do pure [Expr.leaf (← identifier)]
    else pure []
  return .node name (arguments ++ within ++ filter ++ window)

def caseBranch (below : Nested) : Grammar (Option (List Expr)) := do
  if ← keyword "WHEN" then
    let condition ← below.expression
    expect ["THEN"]
    let result ← below.expression
    return some [condition, result]
  else return none

def caseDistinction (below : Nested) : Grammar Expr := do
  let operand ← if ← peekKeyword "WHEN" then pure [] else do pure [← below.expression]
  unless ← peekKeyword "WHEN" do fail
  let branches ← many (caseBranch below)
  let otherwise := (← after ["ELSE"] below.expression).toList
  expect ["END"]
  return .node "CASE" (operand ++ branches.flatten ++ otherwise)

def conversion (below : Nested) : Grammar Expr := parens do
  let operand ← below.expression
  expect ["AS"]
  dataType
  return .node "CAST" [operand]

def timeUnits : List String :=
  ["YEAR", "YEARS", "MONTH", "MONTHS", "WEEK", "WEEKS", "DAY", "DAYS", "HOUR", "HOURS", "MINUTE",
    "MINUTES", "SECOND", "SECONDS", "MILLISECOND", "MILLISECONDS", "MICROSECOND", "MICROSECONDS",
    "QUARTER", "DECADE", "CENTURY", "EPOCH"]

def trimArguments (below : Nested) : Grammar Expr := parens do
  let _ ← oneOf ["BOTH", "LEADING", "TRAILING"]
  let first ← below.expression
  if ← keyword "FROM" then
    return .node "TRIM" [first, ← below.expression]
  else if ← symbol "," then
    return .node "TRIM" (first :: (← commaList below.expression))
  else return .node "TRIM" [first]

def substringArguments (below : Nested) : Grammar Expr := parens do
  let text ← below.expression
  let comma ← symbol ","
  let start ← if comma then pure true else keyword "FROM"
  let first ← if start then do pure [← below.expression] else pure []
  let comma ← symbol ","
  let length ← if comma then pure true else keyword "FOR"
  let second ← if length then do pure [← below.expression] else pure []
  return .node "SUBSTRING" (text :: first ++ second)

def reservedExpr (below : Nested) (key : String) : Grammar (Option Expr) := do
  let opens ← peekSymbol "("
  match key with
  | "TRUE" => return some (.leaf key)
  | "FALSE" => return some (.leaf key)
  | "NULL" => return some (.leaf key)
  | "CURRENT_CATALOG" | "CURRENT_USER" | "SESSION_USER" | "USER" =>
    return if opens then none else some (.leaf key)
  | "CURRENT_TIMESTAMP" | "CURRENT_TIME" | "CURRENT_DATE" | "LOCALTIME" | "LOCALTIMESTAMP" =>
    if opens then return some (.node key (← callArguments below)) else return some (.leaf key)
  | "CASE" => return some (← caseDistinction below)
  | "CAST" | "TRY_CAST" | "SAFE_CAST" => return some (← conversion below)
  | "EXISTS" => return some (.node key [.subquery (← parens below.query)])
  | "EXTRACT" =>
    if !opens then return none
    return some (← parens do
      let field ← identifier
      unless ← symbol "," do expect ["FROM"]
      return .node key [.leaf field, ← below.expression])
  | "POSITION" =>
    if !opens then return none
    return some (← parens do
      let part ← below.expr comparisonStrength
      expect ["IN"]
      return .node key [part, ← below.expression])
  | "SUBSTRING" | "SUBSTR" =>
    if !opens then return none
    return some (← substringArguments below)
  | "TRIM" => return some (← trimArguments below)
  | "INTERVAL" =>
    let amount ← below.expr timeZoneStrength
    let _ ← oneOf timeUnits
    if ← keyword "TO" then
      if (← oneOf timeUnits).isNone then fail
    return some (.node key [amount])
  | "ARRAY" =>
    if ← symbol "[" then
      if ← symbol "]" then return some (.node key [])
      let items ← commaList below.expression
      expectSymbol "]"
      return some (.node key items)
    else if opens then return some (.node key [.subquery (← parens below.query)])
    else return none
  | "NOT" => return some (.node key [← below.expr notStrength])
  | _ => return none

def namedExpr (below : Nested) (text : String) : Grammar Expr := do
  if ← peekSymbol "(" then call below text else return .leaf text

def neverNames : List String := ["EXISTS", "INTERVAL", "STRUCT", "TRIM"]

def wordExpr (below : Nested) (text key : String) : Grammar Expr := fun tokens =>
  match reservedExpr below key tokens with
  | .ok (some e, rest) => .ok (e, rest)
  | .ok (none, _) => namedExpr below text tokens
  | .error .tooDeep => .error .tooDeep
  | .error fault =>
    if neverNames.contains key then .error fault
    else match namedExpr below text tokens with
      | .ok found => .ok found
      | .error _ => .error fault

def primary (below : Nested) : Grammar Expr := do
  match ← attempt typedLiteral with
  | some e => return e
  | none =>
    match ← peek with
    | some (.word text key) =>
      let _ ← next
      wordExpr below text key
    | some (.symbol "(") =>
      let _ ← next
      let inner ← if ← queryAhead then do pure (.subquery (← below.query))
        else do pure (.node "()" (← commaList below.expression))
      expectSymbol ")"
      return inner
    | some (.symbol "[") =>
      let _ ← next
      if ← symbol "]" then return .node "[]" []
      let items ← commaList below.expression
      expectSymbol "]"
      return .node "[]" items
    | some (.symbol "-") =>
      let _ ← next
      return .node "-" [← below.expr productStrength]
    | some (.symbol "+") =>
      let _ ← next
      return .node "+" [← below.expr productStrength]
    | _ => literal

def access (below : Nested) : Grammar (Option Expr) := do
  if ← peekSymbol "." then
    let field ← attempt do
      expectSymbol "."
      match ← peek with
      | some (.symbol _) => fail
      | some (.word text _) =>
        let _ ← next
        namedExpr below text
      | _ => literal
    match field with
    | some e => return some e
    | none =>
      let wildcard ← attempt do
        expectSymbol "."
        expectSymbol "*"
      match wildcard with
      | some _ => return none
      | none => fail
  else if ← symbol "[" then
    let index ← below.expression
    let last ← if ← symbol ":" then do pure (← attempt below.expression).toList else pure []
    expectSymbol "]"
    return some (if last.isEmpty then index else .node ":" (index :: last))
  else return none

def comparand (below : Nested) (strength : Nat) : Grammar Expr := do
  match ← oneOf ["ANY", "ALL", "SOME"] with
  | some quantifier =>
    expectSymbol "("
    let inner ← if ← queryAhead then do pure (.subquery (← below.query))
      else below.expr strength
    expectSymbol ")"
    return .node quantifier [inner]
  | none => below.expr strength

def isOperand (below : Nested) (left : Expr) : Grammar Expr := do
  let _ ← keyword "NOT"
  if (← oneOf ["NULL", "TRUE", "FALSE", "UNKNOWN"]).isSome then return .node "IS" [left]
  if ← keywords ["DISTINCT", "FROM"] then
    return .node "IS" [left, ← below.expression]
  let _ ← oneOf ["NFC", "NFD", "NFKC", "NFKD"]
  expect ["NORMALIZED"]
  return .node "IS" [left]

def inOperand (below : Nested) (left : Expr) : Grammar Expr := do
  if ← keyword "UNNEST" then
    return .node "IN" [left, ← parens below.expression]
  expectSymbol "("
  let right ← match ← attempt below.query with
    | some query => pure [Expr.subquery query]
    | none => commaList below.expression
  expectSymbol ")"
  return .node "IN" (left :: right)

def likeOperand (below : Nested) (left : Expr) (key : String) : Grammar Expr := do
  if key == "SIMILAR" then expect ["TO"]
  let _ ← keyword "ANY"
  let pattern ← below.expr likeStrength
  if ← keyword "ESCAPE" then
    let _ ← literal
  return .node key [left, pattern]

def negatable (below : Nested) (left : Expr) : Grammar Expr := do
  match ← oneOf ["IN", "BETWEEN", "LIKE", "ILIKE", "SIMILAR", "RLIKE", "REGEXP"] with
  | some "IN" => inOperand below left
  | some "BETWEEN" =>
    let low ← below.expr comparisonStrength
    expect ["AND"]
    let high ← below.expr comparisonStrength
    return .node "BETWEEN" [left, low, high]
  | some key => likeOperand below left key
  | none => fail

def operation (below : Nested) (left : Expr) (strength : Nat) : Grammar Expr := do
  match ← peek with
  | some (.symbol text) =>
    let _ ← next
    if text == "::" then
      dataType
      return .node "CAST" [left]
    else if text == "[" then
      let index ← below.expression
      expectSymbol "]"
      return .node "[]" [left, index]
    else if text == "!" then return .node "!" [left]
    else if symbolStrength text == comparisonStrength then
      return .node text [left, ← comparand below strength]
    else return .node text [left, ← below.expr strength]
  | some (.word _ key) =>
    if key == "NOT" then
      let _ ← next
      return .node "NOT" [← negatable below left]
    else if negatableStrength key ≠ 0 then negatable below left
    else
      let _ ← next
      if key == "IS" then isOperand below left
      else if key == "AT" then
        expect ["TIME", "ZONE"]
        return .node "AT TIME ZONE" [left, ← below.expr strength]
      else if key == "COLLATE" then
        let _ ← objectName
        return .node "COLLATE" [left]
      else return .node key [left, ← below.expr strength]
  | _ => fail

def operations (below : Nested) (strength : Nat) (left : Expr) : Nat → Grammar Expr
  | 0 => pure left
  | fuel + 1 => do
    let found := operatorStrength (← get)
    if strength < found then
      let e ← operation below left found
      operations below strength e fuel
    else return left

def expr (below : Nested) (strength : Nat) : Grammar Expr := do
  let first ← primary below
  let parts ← many (access below)
  let left := if parts.isEmpty then first else .node "." (first :: parts)
  let tokens ← get
  operations below strength left tokens.length

end NestedTx.Sql.Grammar
