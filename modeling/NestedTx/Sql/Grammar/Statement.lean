import NestedTx.Sql.Grammar.Definition
import NestedTx.Sql.Lexer

namespace NestedTx.Sql

namespace Grammar

def transactionMode : Grammar Bool := do
  if ← keywords ["ISOLATION", "LEVEL"] then
    if ← keywords ["READ", "UNCOMMITTED"] then return true
    if ← keywords ["READ", "COMMITTED"] then return true
    if ← keywords ["REPEATABLE", "READ"] then return true
    if (← oneOf ["SERIALIZABLE", "SNAPSHOT"]).isNone then fail
    return true
  if ← keywords ["READ", "ONLY"] then return true
  keywords ["READ", "WRITE"]

def transactionModes : Grammar Unit := do
  let modes ← many do
    if ← transactionMode then return some (← symbol ",") else return none
  if modes.getLast? == some true then fail

def chain : Grammar Unit := do
  let _ ← oneOf ["TRANSACTION", "WORK"]
  if ← keyword "AND" then
    let _ ← keyword "NO"
    expect ["CHAIN"]

def control : Grammar (Option Statement) := do
  if ← keyword "BEGIN" then
    let _ ← oneOf ["DEFERRED", "IMMEDIATE", "EXCLUSIVE", "TRY", "CATCH"]
    let _ ← oneOf ["TRANSACTION", "WORK"]
    transactionModes
    return some .startTransaction
  if ← keyword "START" then
    expect ["TRANSACTION"]
    transactionModes
    return some .startTransaction
  if ← keyword "END" then
    let _ ← oneOf ["TRY", "CATCH"]
    chain
    return some .commit
  if ← keyword "COMMIT" then
    chain
    return some .commit
  if ← keyword "ROLLBACK" then
    chain
    if ← keyword "TO" then
      let _ ← keyword "SAVEPOINT"
      let _ ← identifier
    return some .rollback
  if ← keyword "SAVEPOINT" then return some (.savepoint (← identifier))
  if ← keyword "RELEASE" then
    let _ ← keyword "SAVEPOINT"
    return some (.release (← identifier))
  return none

def truncation (below : Nested) : Grammar Statement := do
  let _ ← keyword "TABLE"
  let _ ← keyword "ONLY"
  let names ← commaList objectName
  let partitions := (← after ["PARTITION"] (parens (commaList below.expression))).getD []
  if (← oneOf ["RESTART", "CONTINUE"]).isSome then expect ["IDENTITY"]
  cascade
  if ← keywords ["ON", "CLUSTER"] then
    let _ ← identifier
  return .utility "TRUNCATE" (names.map .leaf ++ partitions)

def explainOption (below : Nested) : Grammar Expr := do
  let name ← identifier
  if ← peekSymbol "," then return .leaf name
  if ← peekSymbol ")" then return .leaf name
  return .node name [← below.expression]

def explanation (below : Nested) (verb : String) : Grammar Statement := do
  if verb == "EXPLAIN" && (← peekSymbol "(") then
    let _ ← parens (commaList (explainOption below))
  else if ← keywords ["QUERY", "PLAN"] then pure ()
  else if ← keyword "ESTIMATE" then pure ()
  else
    let _ ← keyword "ANALYZE"
    let _ ← keyword "VERBOSE"
    if ← keyword "FORMAT" then
      if (← oneOf ["TEXT", "GRAPHVIZ", "JSON"]).isNone then fail
  match ← attempt below.statement with
  | some (.explain _) => fail
  | some (.utility "DESCRIBE" _) => fail
  | some statement => return .explain statement
  | none =>
    let _ ← oneOf ["EXTENDED", "FORMATTED"]
    return .utility "DESCRIBE" [.leaf (← objectName)]

def shownObjects (below : Nested) : Grammar Statement := do
  let _ ← many do
    if (← oneOf ["FROM", "IN"]).isSome then
      let _ ← oneOf ["ACCOUNT", "DATABASE", "SCHEMA", "TABLE", "VIEW"]
      return some (.leaf (← objectName))
    if (← oneOf ["LIKE", "ILIKE"]).isSome then return some (← literal)
    if ← keyword "WHERE" then return some (← below.expression)
    if ← keywords ["STARTS", "WITH"] then return some (← literal)
    if ← keyword "LIMIT" then return some (← below.expression)
    if (← peek).any fun | .string _ => true | _ => false then return some (← literal)
    return none
  return .utility "SHOW" []

def afterVariable (tokens : List Token) : List Token :=
  tokens.dropWhile fun
    | .symbol text => text != "=" && text != ";"
    | _ => true

def showing (below : Nested) : Grammar Statement := do
  let _ ← keyword "TERSE"
  let extended ← keyword "EXTENDED"
  let full ← keyword "FULL"
  let _ ← keyword "SESSION"
  let _ ← keyword "GLOBAL"
  let _ ← keyword "EXTERNAL"
  if (← oneOf ["COLUMNS", "FIELDS", "TABLES", "VIEWS"]).isSome then return ← shownObjects below
  if ← keywords ["MATERIALIZED", "VIEWS"] then return ← shownObjects below
  if ← keyword "FUNCTIONS" then return ← shownObjects below
  if extended || full then fail
  if ← keyword "CREATE" then
    if (← oneOf ["TABLE", "TRIGGER", "FUNCTION", "PROCEDURE", "EVENT", "VIEW"]).isNone then fail
    return .utility "SHOW" [.leaf (← objectName)]
  if (← oneOf ["COLLATION", "VARIABLES", "STATUS", "DATABASES", "SCHEMAS"]).isSome then
    return ← shownObjects below
  modify afterVariable
  return .utility "SHOW" []

def settingValues (below : Nested) : Grammar (List Expr) :=
  commaList below.expression

def setting (below : Nested) : Grammar (List Expr) := do
  let name ← objectName
  unless ← symbol "=" do expect ["TO"]
  return .leaf name :: (← settingValues below)

def sessionSetting (below : Nested) : Grammar Statement := do
  let _ ← oneOf ["SESSION", "LOCAL", "GLOBAL"]
  let role ← attempt do
    expect ["ROLE"]
    identifier
  if let some role := role then return .utility "SET ROLE" [.leaf role]
  if (← keywords ["TIME", "ZONE"]) || (← keyword "TIMEZONE") then
    if ← symbol "=" then return .utility "SET" (← settingValues below)
    if ← keyword "TO" then return .utility "SET" (← settingValues below)
    return .utility "SET" [← below.expression]
  if ← keyword "NAMES" then
    if ← keyword "DEFAULT" then return .utility "SET NAMES" []
    let _ ← identifier
    let _ ← after ["COLLATE"] literal
    return .utility "SET NAMES" []
  if ← keyword "CHARACTERISTICS" then
    expect ["AS", "TRANSACTION"]
    transactionModes
    return .utility "SET TRANSACTION" []
  if ← keyword "TRANSACTION" then
    if ← keyword "SNAPSHOT" then
      let _ ← literal
    else transactionModes
    return .utility "SET TRANSACTION" []
  match ← attempt (commaList (setting below)) with
  | some parts => return .utility "SET" parts.flatten
  | none =>
    if ← peekSymbol "(" then
      let names ← columnNames
      unless ← symbol "=" do expect ["TO"]
      return .utility "SET" (names.map .leaf ++ (← parens (settingValues below)))
    else
      return .utility "SET" (← setting below)

def privilegeWords : List String :=
  ["SELECT", "INSERT", "UPDATE", "DELETE", "TRUNCATE", "REFERENCES", "TRIGGER", "CONNECT", "CREATE",
    "EXECUTE", "TEMPORARY", "USAGE", "OWNERSHIP", "READ", "WRITE", "OPERATE", "MONITOR", "MODIFY",
    "DROP", "EXEC", "FAILOVER", "REPLICATE", "RESOLVE", "ROLE", "APPLY", "AUDIT", "IMPORTED",
    "OVERRIDE", "POLICY", "PURCHASE", "ADD"]

def privilege : Grammar Unit := do
  match ← oneOf privilegeWords with
  | none => fail
  | some "ROLE" => let _ ← objectName
  | some "CREATE" =>
    let _ ← oneOf ["SCHEMA", "DATABASE", "ROLE", "USER", "WAREHOUSE", "INTEGRATION", "SHARE"]
  | some "IMPORTED" => expect ["PRIVILEGES"]
  | some _ =>
    let _ ← optionalColumns

def privileges : Grammar Unit := do
  if ← keyword "ALL" then
    let _ ← keyword "PRIVILEGES"
  else
    let _ ← commaList privilege
  if ← keyword "ON" then
    if ← keywords ["ALL", "TABLES", "IN", "SCHEMA"] then
      let _ ← commaList objectName
    else if ← keywords ["ALL", "SEQUENCES", "IN", "SCHEMA"] then
      let _ ← commaList objectName
    else
      let _ ← oneOf ["SEQUENCE", "DATABASE", "SCHEMA", "TABLE", "VIEW", "WAREHOUSE", "INTEGRATION",
        "USER", "ROLE"]
      let _ ← commaList do
        match ← attempt wildcard with
        | some _ => pure ()
        | none =>
          let _ ← objectName

def grantees : Grammar (List String) :=
  commaList do
    if ← keyword "PUBLIC" then return "PUBLIC"
    let _ ← oneOf ["ROLE", "USER", "SHARE", "GROUP"]
    objectName

def grant : Grammar Statement := do
  privileges
  expect ["TO"]
  let names ← grantees
  if ← keywords ["WITH", "GRANT", "OPTION"] then pure ()
  let _ ← after ["GRANTED", "BY"] identifier
  return .utility "GRANT" (names.map .leaf)

def revocation : Grammar Statement := do
  privileges
  expect ["FROM"]
  let names ← grantees
  let _ ← after ["GRANTED", "BY"] identifier
  cascade
  return .utility "REVOKE" (names.map .leaf)

def execution (below : Nested) : Grammar Statement := do
  unless ← keyword "IMMEDIATE" do
    let _ ← objectName
  let values ← if ← symbol "(" then do
      if ← symbol ")" then pure []
      else
        let values ← commaList below.expression
        expectSymbol ")"
        pure values
    else do
      let ends := match ← peek with
        | none => true
        | some (.symbol ";") => true
        | some (.word _ "USING") => true
        | some _ => false
      if ends then pure [] else commaList below.expression
  let used := (← after ["USING"] (commaList do
    let e ← below.expression
    let _ ← label notColumnNames
    return e)).getD []
  return .utility "EXECUTE" (values ++ used)

def mergeCase (below : Nested) : Grammar (Option (List Expr)) := do
  if ← keyword "WHEN" then
    let notMatched ← keyword "NOT"
    expect ["MATCHED"]
    let bySource ← if notMatched then keywords ["BY", "SOURCE"] else pure false
    if notMatched && !bySource then
      if ← keywords ["BY", "TARGET"] then pure ()
    let inserts := notMatched && !bySource
    let extra := (← after ["AND"] below.expression).toList
    expect ["THEN"]
    if inserts then
      expect ["INSERT"]
      let _ ← optionalColumns
      if ← keyword "ROW" then return some extra
      expect ["VALUES"]
      return some (extra ++ (← valueRows below))
    else if ← keyword "DELETE" then return some extra
    else
      expect ["UPDATE", "SET"]
      return some (extra ++ (← commaList (assignment below)))
  else return none

def merge (below : Nested) : Grammar Statement := do
  let _ ← keyword "INTO"
  let target ← tableFactor below joinDepth
  expect ["USING"]
  let source ← tableFactor below joinDepth
  expect ["ON"]
  let on ← below.expression
  let cases ← many (mergeCase below)
  return .merge (target :: source :: on :: cases.flatten)

def utility (below : Nested) : Grammar (Option Statement) := do
  if ← keyword "TRUNCATE" then return some (← truncation below)
  if let some verb ← oneOf ["EXPLAIN", "DESCRIBE", "DESC"] then
    return some (← explanation below verb)
  if ← keyword "SHOW" then return some (← showing below)
  if ← keyword "SET" then return some (← sessionSetting below)
  if ← keyword "USE" then return some (.utility "USE" [.leaf (← objectName)])
  if ← keyword "GRANT" then return some (← grant)
  if ← keyword "REVOKE" then return some (← revocation)
  if ← keyword "CALL" then
    let name ← objectName
    if ← peekSymbol "(" then return some (.utility "CALL" [← call below name])
    else return some (.utility "CALL" [.leaf name])
  if ← keyword "PREPARE" then
    let name ← identifier
    if ← peekSymbol "(" then
      let _ ← parens (commaList dataType)
    expect ["AS"]
    return some (.prepare name (← below.statement))
  if (← oneOf ["EXECUTE", "EXEC"]).isSome then return some (← execution below)
  if ← keyword "DEALLOCATE" then
    let _ ← keyword "PREPARE"
    return some (.utility "DEALLOCATE" [.leaf (← identifier)])
  if ← keyword "MERGE" then return some (← merge below)
  if ← keyword "COMMENT" then
    expect ["ON"]
    let _ ← identifier
    let name ← objectName
    expect ["IS"]
    unless ← keyword "NULL" do
      let _ ← literal
    return some (.utility "COMMENT" [.leaf name])
  if ← keyword "ANALYZE" then
    let _ ← keyword "TABLE"
    let name ← objectName
    skipRest
    return some (.utility "ANALYZE" [.leaf name])
  if ← keyword "CLOSE" then return some (.utility "CLOSE" [.leaf (← identifier)])
  if ← keyword "DISCARD" then
    if (← oneOf ["ALL", "PLANS", "SEQUENCES", "TEMP"]).isNone then fail
    return some (.utility "DISCARD" [])
  if ← keyword "ASSERT" then
    let e ← below.expression
    return some (.utility "ASSERT" (e :: (← after ["AS"] below.expression).toList))
  if ← keyword "KILL" then
    let _ ← oneOf ["CONNECTION", "QUERY", "MUTATION"]
    return some (.utility "KILL" [← literal])
  if ← keyword "PRAGMA" then
    let name ← objectName
    if ← symbol "=" then return some (.utility "PRAGMA" [.leaf name, ← below.expression])
    if ← peekSymbol "(" then
      let _ ← parens literal
    return some (.utility "PRAGMA" [.leaf name])
  return none

def statement (below : Nested) : Grammar Statement := do
  if let some found ← control then return found
  if let some found ← utility below then return found
  if ← keyword "INSERT" then return .change (← insertion below)
  if ← keyword "REPLACE" then return .change (← insertion below)
  if ← keyword "UPDATE" then return .change (← modification below)
  if ← keyword "DELETE" then return .delete (← deletion below)
  if ← keyword "CREATE" then return ← definition below
  if ← keyword "ALTER" then return ← alteration below
  if ← keyword "DROP" then return ← removal
  match ← peek with
  | some (.word _ key) =>
    if ["SELECT", "WITH", "VALUES", "FROM"].contains key then return .query (← below.query) else fail
  | some (.symbol "(") => return .query (← below.query)
  | _ => fail

end Grammar

def Nested.upTo : Nat → Nested
  | 0 => .none
  | depth + 1 =>
    let below := Nested.upTo depth
    ⟨Grammar.expr below, Grammar.query below, Grammar.statement below⟩

def nestingLimit : Nat := 50

namespace Script

def afterSeparators : List Token → List Token
  | .symbol ";" :: rest => afterSeparators rest
  | tokens => tokens

/-- The statements of a script. A word `END` behind a statement ends the script. -/
def statementsFrom : Nat → List Token → Except ParseError (List Statement)
  | 0, _ => .ok []
  | fuel + 1, tokens =>
    match afterSeparators tokens with
    | [] => .ok []
    | front => do
      let (statement, rest) ← (Nested.upTo nestingLimit).statement front
      match rest with
      | [] => return [statement]
      | .symbol ";" :: _ => return statement :: (← statementsFrom fuel rest)
      | .word _ "END" :: _ => return [statement]
      | token :: _ => .error (.unexpected (some token))

def parse (text : List Char) : Except ParseError (List Statement) := do
  let tokens ← Sql.tokens text
  statementsFrom (tokens.length + 1) tokens

end Script

end NestedTx.Sql
