import NestedTx.Sql.Grammar.Query

namespace NestedTx.Sql.Grammar

def ifNotExists : Grammar Unit := do
  if ← keywords ["IF", "NOT", "EXISTS"] then pure ()

def ifExists : Grammar Unit := do
  if ← keywords ["IF", "EXISTS"] then pure ()

def referentialAction : Grammar Unit := do
  if (← oneOf ["RESTRICT", "CASCADE"]).isSome then return
  if ← keywords ["SET", "NULL"] then return
  if ← keywords ["SET", "DEFAULT"] then return
  expect ["NO", "ACTION"]

def constraintTiming : Grammar Unit := do
  let _ ← many do
    if ← keywords ["NOT", "DEFERRABLE"] then return some ()
    if ← keyword "DEFERRABLE" then return some ()
    if ← keywords ["INITIALLY", "DEFERRED"] then return some ()
    if ← keywords ["INITIALLY", "IMMEDIATE"] then return some ()
    if ← keywords ["NOT", "ENFORCED"] then return some ()
    if ← keyword "ENFORCED" then return some ()
    return none

def references : Grammar Unit := do
  let _ ← objectName
  let _ ← optionalColumns
  let _ ← many do
    if ← keyword "MATCH" then
      let _ ← identifier
      return some ()
    if ← keywords ["ON", "DELETE"] then
      referentialAction
      return some ()
    if ← keywords ["ON", "UPDATE"] then
      referentialAction
      return some ()
    return none
  constraintTiming

def sequenceOptions (below : Nested) : Grammar Unit := do
  let _ ← many do
    if ← keyword "INCREMENT" then
      let _ ← keyword "BY"
      return some (← below.expression)
    if ← keyword "MINVALUE" then return some (← below.expression)
    if ← keyword "MAXVALUE" then return some (← below.expression)
    if ← keywords ["NO", "MINVALUE"] then return some (.leaf "")
    if ← keywords ["NO", "MAXVALUE"] then return some (.leaf "")
    if ← keyword "START" then
      let _ ← keyword "WITH"
      return some (← below.expression)
    if ← keyword "CACHE" then return some (← below.expression)
    if ← keywords ["NO", "CYCLE"] then return some (.leaf "")
    if ← keyword "CYCLE" then return some (.leaf "")
    return none

def columnOption (below : Nested) : Grammar (Option Expr) := do
  if ← keywords ["NOT", "NULL"] then return some (.leaf "NOT NULL")
  if ← keyword "NULL" then return some (.leaf "NULL")
  if ← keyword "DEFAULT" then return some (.node "DEFAULT" [← below.expression])
  if ← keywords ["PRIMARY", "KEY"] then
    constraintTiming
    return some (.leaf "PRIMARY KEY")
  if ← keyword "UNIQUE" then
    constraintTiming
    return some (.leaf "UNIQUE")
  if ← keyword "REFERENCES" then
    references
    return some (.leaf "REFERENCES")
  if ← keyword "CHECK" then return some (.node "CHECK" [← parens below.expression])
  if ← keyword "COMMENT" then
    let _ ← literal
    return some (.leaf "COMMENT")
  if ← keyword "COLLATE" then
    let _ ← objectName
    return some (.leaf "COLLATE")
  if (← oneOf ["AUTO_INCREMENT", "AUTOINCREMENT", "ASC", "DESC"]).isSome then
    return some (.leaf "")
  if ← keywords ["CHARACTER", "SET"] then
    let _ ← objectName
    return some (.leaf "CHARACTER SET")
  if ← keywords ["ON", "UPDATE"] then return some (.node "ON UPDATE" [← below.expression])
  if ← keyword "GENERATED" then
    if ← keyword "ALWAYS" then pure () else expect ["BY", "DEFAULT"]
    expect ["AS"]
    if ← keyword "IDENTITY" then
      if ← symbol "(" then
        sequenceOptions below
        expectSymbol ")"
      return some (.leaf "IDENTITY")
    let e ← parens below.expression
    let _ ← oneOf ["STORED", "VIRTUAL"]
    return some (.node "GENERATED" [e])
  if ← keyword "AS" then return some (.node "AS" [← parens below.expression])
  return none

def columnOptions (below : Nested) : Grammar (List Expr) :=
  many do
    if ← keyword "CONSTRAINT" then
      let _ ← identifier
      match ← columnOption below with
      | some option => return some option
      | none => fail
    columnOption below

def column (below : Nested) : Grammar (List Expr) := do
  let _ ← identifier
  dataType
  columnOptions below

def keyColumns (below : Nested) : Grammar (List Expr) :=
  parens (commaList (sortKey below))

def tableConstraint (below : Nested) : Grammar (Option (List Expr)) := do
  let named ← keyword "CONSTRAINT"
  if named then
    let _ ← identifier
  if ← keywords ["PRIMARY", "KEY"] then
    let columns ← keyColumns below
    constraintTiming
    return some columns
  if ← keyword "UNIQUE" then
    if ← keywords ["NULLS", "NOT", "DISTINCT"] then pure ()
    let _ ← oneOf ["INDEX", "KEY"]
    unless ← peekSymbol "(" do
      let _ ← identifier
    let columns ← keyColumns below
    constraintTiming
    return some columns
  if ← keywords ["FOREIGN", "KEY"] then
    unless ← peekSymbol "(" do
      let _ ← identifier
    let _ ← columnNames
    expect ["REFERENCES"]
    references
    return some []
  if ← keyword "CHECK" then
    let e ← parens below.expression
    constraintTiming
    return some [e]
  if named then fail
  let index ← attempt do
    if (← oneOf ["INDEX", "KEY"]).isNone then fail
    unless ← peekSymbol "(" do
      let _ ← identifier
    keyColumns below
  return index

def tableColumns (below : Nested) : Grammar (List Expr) := do
  if ← symbol "(" then
    if ← symbol ")" then return []
    let parts ← commaList do
      match ← tableConstraint below with
      | some parts => return parts
      | none => column below
    expectSymbol ")"
    return parts.flatten
  else return []

def settings (below : Nested) : Grammar (List Expr) :=
  parens (commaList below.expression)

def tableOption (below : Nested) : Grammar (Option (List Expr)) := do
  if ← keyword "WITH" then return some (← settings below)
  if ← keywords ["PARTITION", "BY"] then return some [← below.expression]
  if ← keywords ["ORDER", "BY"] then return some (← commaList below.expression)
  if ← keywords ["CLUSTER", "BY"] then return some (← commaList below.expression)
  if ← keyword "COMMENT" then
    let _ ← symbol "="
    return some [← literal]
  if ← keyword "ENGINE" then
    let _ ← symbol "="
    let _ ← objectName
    if ← peekSymbol "(" then return some (← callArguments below) else return some []
  if (← oneOf ["AUTO_INCREMENT", "CHARSET", "COLLATE"]).isSome then
    let _ ← symbol "="
    return some [← below.expression]
  if ← keywords ["DEFAULT", "CHARSET"] then
    let _ ← symbol "="
    let _ ← identifier
    return some []
  if ← keywords ["ON", "COMMIT"] then
    if ← keywords ["DELETE", "ROWS"] then return some []
    if ← keywords ["PRESERVE", "ROWS"] then return some []
    expect ["DROP"]
    return some []
  if (← oneOf ["STRICT", "TABLESPACE"]).isSome then return some []
  return none

def tableDefinition (below : Nested) : Grammar Statement := do
  ifNotExists
  let name ← objectName
  if ← keywords ["ON", "CLUSTER"] then
    let _ ← identifier
  if (← oneOf ["LIKE", "CLONE"]).isSome then
    let _ ← objectName
  let columns ← tableColumns below
  let options ← many (tableOption below)
  let source ← if ← keyword "AS" then do pure (some (← below.query))
    else if ← peekKeyword "SELECT" then do pure (some (← below.query))
    else pure none
  return .createTable name (columns ++ options.flatten) source

def indexDefinition (below : Nested) : Grammar Statement := do
  let _ ← keyword "CONCURRENTLY"
  ifNotExists
  unless ← keyword "ON" do
    let _ ← objectName
    if ← keyword "USING" then
      let _ ← identifier
    expect ["ON"]
  let _ ← objectName
  if ← keyword "USING" then
    let _ ← identifier
  let columns ← keyColumns below
  if ← keyword "INCLUDE" then
    let _ ← columnNames
  if ← keywords ["NULLS", "NOT", "DISTINCT"] then pure ()
  else if ← keywords ["NULLS", "DISTINCT"] then pure ()
  let options := (← after ["WITH"] (settings below)).getD []
  let selection ← condition below
  return .createIndex (columns ++ options ++ selection)

def viewDefinition (below : Nested) : Grammar Statement := do
  ifNotExists
  let name ← objectName
  if ← peekSymbol "(" then
    let _ ← parens (commaList identifier)
  if ← keyword "WITH" then
    let _ ← settings below
  if ← keywords ["CLUSTER", "BY"] then
    let _ ← columnNames
  if ← keyword "COMMENT" then
    let _ ← symbol "="
    let _ ← literal
  expect ["AS"]
  let source ← below.query
  if ← keywords ["WITH", "NO", "SCHEMA", "BINDING"] then pure ()
  return .createView name source

def otherObjects : List String :=
  ["POLICY", "FUNCTION", "TRIGGER", "PROCEDURE", "MACRO", "SECRET", "EXTENSION", "TYPE", "STAGE",
    "CONNECTOR"]

def definition (below : Nested) : Grammar Statement := do
  let replace ← keywords ["OR", "REPLACE"]
  unless replace do
    if ← keywords ["OR", "ALTER"] then pure ()
  let _ ← keyword "LOCAL"
  let _ ← keyword "GLOBAL"
  let _ ← keyword "TRANSIENT"
  let _ ← oneOf ["TEMP", "TEMPORARY"]
  if ← keyword "EXTERNAL" then expect ["TABLE"]; return ← tableDefinition below
  if ← keyword "TABLE" then return ← tableDefinition below
  if ← keyword "MATERIALIZED" then expect ["VIEW"]; return ← viewDefinition below
  if ← keyword "VIEW" then return ← viewDefinition below
  if (← oneOf ["FUNCTION", "TRIGGER", "PROCEDURE", "MACRO", "SECRET"]).isSome then
    let name ← objectName
    skipRest
    return .utility "CREATE" [.leaf name]
  if replace then fail
  if ← keyword "INDEX" then return ← indexDefinition below
  if ← keywords ["UNIQUE", "INDEX"] then return ← indexDefinition below
  if ← keyword "SCHEMA" then
    ifNotExists
    if ← keyword "AUTHORIZATION" then return .utility "CREATE SCHEMA" [.leaf (← identifier)]
    let name ← objectName
    if ← keyword "AUTHORIZATION" then
      let _ ← identifier
    return .utility "CREATE SCHEMA" [.leaf name]
  if ← keyword "DATABASE" then
    ifNotExists
    let name ← objectName
    let _ ← many do
      if (← oneOf ["LOCATION", "MANAGEDLOCATION"]).isSome then return some (← literal) else return none
    return .utility "CREATE DATABASE" [.leaf name]
  if ← keyword "ROLE" then
    ifNotExists
    let names ← commaList objectName
    let _ ← keyword "WITH"
    let _ ← many do
      if (← oneOf ["SUPERUSER", "NOSUPERUSER", "CREATEDB", "NOCREATEDB", "CREATEROLE", "NOCREATEROLE",
          "INHERIT", "NOINHERIT", "LOGIN", "NOLOGIN", "REPLICATION", "NOREPLICATION", "BYPASSRLS",
          "NOBYPASSRLS"]).isSome then return some (.leaf "")
      if ← keywords ["CONNECTION", "LIMIT"] then return some (← below.expression)
      if ← keyword "PASSWORD" then return some (← literal)
      return none
    return .utility "CREATE ROLE" (names.map .leaf)
  if ← keyword "SEQUENCE" then
    ifNotExists
    let name ← objectName
    if ← keyword "AS" then dataType
    sequenceOptions below
    if ← keywords ["OWNED", "BY"] then
      let _ ← objectName
    return .utility "CREATE SEQUENCE" [.leaf name]
  if (← oneOf otherObjects).isSome then
    ifNotExists
    let name ← objectName
    skipRest
    return .utility "CREATE" [.leaf name]
  fail

def cascade : Grammar Unit := do
  let _ ← oneOf ["CASCADE", "RESTRICT"]

def tableChange (below : Nested) : Grammar (List Expr) := do
  if ← keyword "ADD" then
    match ← tableConstraint below with
    | some parts => return parts
    | none =>
      let _ ← keyword "COLUMN"
      ifNotExists
      let parts ← column below
      if ← keyword "FIRST" then pure ()
      else if ← keyword "AFTER" then
        let _ ← identifier
      return parts
  if ← keyword "RENAME" then
    if ← keyword "TO" then
      return [.leaf (← objectName)]
    let _ ← oneOf ["CONSTRAINT", "COLUMN"]
    let old ← identifier
    expect ["TO"]
    return [.leaf old, .leaf (← identifier)]
  if ← keyword "DROP" then
    if ← keywords ["PRIMARY", "KEY"] then return []
    let _ ← oneOf ["CONSTRAINT", "COLUMN", "PARTITION"]
    ifExists
    let name ← identifier
    cascade
    return [.leaf name]
  if ← keyword "ALTER" then
    let _ ← keyword "COLUMN"
    let name ← identifier
    if ← keywords ["SET", "NOT", "NULL"] then return [.leaf name]
    if ← keywords ["DROP", "NOT", "NULL"] then return [.leaf name]
    if ← keywords ["SET", "DEFAULT"] then return [.leaf name, ← below.expression]
    if ← keywords ["DROP", "DEFAULT"] then return [.leaf name]
    unless ← keywords ["SET", "DATA", "TYPE"] do expect ["TYPE"]
    dataType
    return .leaf name :: (← after ["USING"] below.expression).toList
  if ← keyword "CHANGE" then
    let _ ← keyword "COLUMN"
    let name ← identifier
    return .leaf name :: (← column below)
  if ← keyword "MODIFY" then
    let _ ← keyword "COLUMN"
    return ← column below
  if ← keywords ["OWNER", "TO"] then return [.leaf (← identifier)]
  if ← keywords ["SWAP", "WITH"] then return [.leaf (← objectName)]
  if (← oneOf ["ENABLE", "DISABLE"]).isSome then
    let first ← identifier
    skipRest
    return [.leaf first]
  if ← keyword "SET" then
    let _ ← oneOf ["TBLPROPERTIES"]
    return ← settings below
  fail

def alteration (below : Nested) : Grammar Statement := do
  if ← keyword "VIEW" then
    let name ← objectName
    let _ ← optionalColumns
    if ← keyword "WITH" then
      let _ ← settings below
    expect ["AS"]
    return .utility "ALTER VIEW" [.leaf name, .subquery (← below.query)]
  if ← keyword "TABLE" then
    ifExists
    let _ ← keyword "ONLY"
    let name ← objectName
    if ← keywords ["ON", "CLUSTER"] then
      let _ ← identifier
    let parts ← commaList (tableChange below)
    return .alterTable name parts.flatten
  if ← keyword "INDEX" then
    let name ← objectName
    expect ["RENAME", "TO"]
    let _ ← objectName
    return .utility "ALTER INDEX" [.leaf name]
  if (← oneOf ["ROLE", "POLICY", "TYPE", "CONNECTOR", "SESSION", "SCHEMA", "DATABASE"]).isSome then
    let name ← objectName
    skipRest
    return .utility "ALTER" [.leaf name]
  fail

def removal : Grammar Statement := do
  let _ ← oneOf ["TEMPORARY"]
  let object ← do
    if ← keywords ["MATERIALIZED", "VIEW"] then pure (some "VIEW")
    else oneOf ["TABLE", "VIEW", "INDEX", "ROLE", "SCHEMA", "DATABASE", "SEQUENCE", "STAGE", "TYPE"]
  match object with
  | some object =>
    ifExists
    let names ← commaList objectName
    cascade
    let _ ← keyword "PURGE"
    if ← keyword "ON" then
      let _ ← objectName
    return .drop object names
  | none =>
    if (← oneOf ["FUNCTION", "PROCEDURE"]).isSome then
      ifExists
      let names ← commaList do
        let name ← objectName
        if ← symbol "(" then
          unless ← symbol ")" do
            let _ ← commaList do
              let _ ← oneOf ["IN", "OUT", "INOUT"]
              let _ ← objectName
              attempt dataType
            expectSymbol ")"
        return name
      cascade
      return .utility "DROP FUNCTION" (names.map .leaf)
    if (← oneOf ["POLICY", "CONNECTOR", "SECRET", "TRIGGER", "EXTENSION"]).isSome then
      ifExists
      let name ← objectName
      if ← keyword "ON" then
        let _ ← objectName
      cascade
      return .utility "DROP" [.leaf name]
    fail

end NestedTx.Sql.Grammar
