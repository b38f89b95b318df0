import NestedTx.Sql.Grammar.Expr

namespace NestedTx.Sql.Grammar

def notColumnNames : List String :=
  ["WITH", "EXPLAIN", "ANALYZE", "SELECT", "WHERE", "GROUP", "SORT", "HAVING", "ORDER", "LATERAL",
    "LIMIT", "OFFSET", "FETCH", "UNION", "EXCEPT", "INTERSECT", "MINUS", "CLUSTER", "DISTRIBUTE",
    "RETURNING", "FROM", "INTO", "END"]

def notTableNames : List String :=
  ["WITH", "EXPLAIN", "ANALYZE", "SELECT", "WHERE", "GROUP", "SORT", "HAVING", "ORDER", "PIVOT",
    "UNPIVOT", "TOP", "LATERAL", "VIEW", "LIMIT", "OFFSET", "FETCH", "UNION", "EXCEPT", "INTERSECT",
    "MINUS", "ON", "JOIN", "INNER", "CROSS", "FULL", "LEFT", "RIGHT", "NATURAL", "USING", "CLUSTER",
    "DISTRIBUTE", "GLOBAL", "ANTI", "SEMI", "RETURNING", "ASOF", "MATCH_CONDITION", "OUTER", "SET",
    "QUALIFY", "WINDOW", "END", "FOR", "PARTITION", "PREWHERE", "SETTINGS", "FORMAT", "START",
    "CONNECT", "MATCH_RECOGNIZE", "SAMPLE", "TABLESAMPLE", "FROM"]

def label (reserved : List String) : Grammar (Option String) := do
  if ← keyword "AS" then return some (← identifier)
  else
    match ← peek with
    | some (.word text key) =>
      if key != "" && reserved.contains key then return none
      else
        let _ ← next
        return some text
    | some (.string text) =>
      let _ ← next
      return some text
    | _ => return none

def wildcard : Grammar Expr := do
  if ← symbol "*" then return .leaf "*"
  let name ← objectName
  expectSymbol "."
  expectSymbol "*"
  return .leaf (name ++ ".*")

def wildcardChanges (below : Nested) : Grammar (List Expr) := do
  if (← oneOf ["EXCEPT", "EXCLUDE"]).isSome then
    if ← peekSymbol "(" then
      let _ ← columnNames
    else
      let _ ← identifier
  let replaced ← after ["REPLACE"] (parens (commaList do
    let e ← below.expression
    expect ["AS"]
    let _ ← identifier
    return e))
  return replaced.getD []

def selectItem (below : Nested) : Grammar Expr := do
  match ← attempt wildcard with
  | some e => return .node "*" (e :: (← wildcardChanges below))
  | none =>
    if ← peekKeyword "FROM" then fail
    let e ← below.expression
    match ← label notColumnNames with
    | some name => return .node "AS" [e, .leaf name]
    | none => return e

def tableAlias : Grammar (Option String) := do
  match ← label notTableNames with
  | some name =>
    if ← peekSymbol "(" then
      let _ ← parens (commaList do
        let _ ← identifier
        attempt dataType)
    return some name
  | none => return none

def joinCondition (below : Nested) (natural : Bool) : Grammar (List Expr) := do
  if natural then return []
  if ← keyword "ON" then return [← below.expression]
  if ← keyword "USING" then
    return (← columnNames).map .leaf
  return []

def joinWords : Grammar (Option Bool) := do
  let isGlobal ← keyword "GLOBAL"
  if ← keyword "CROSS" then
    match ← oneOf ["JOIN", "APPLY"] with
    | some _ => return some true
    | none => fail
  if ← keyword "OUTER" then
    expect ["APPLY"]
    return some true
  let natural ← keyword "NATURAL"
  if ← keyword "INNER" then
    expect ["JOIN"]
    return some natural
  if ← keyword "JOIN" then return some natural
  if (← oneOf ["LEFT", "RIGHT"]).isSome then
    match ← oneOf ["OUTER", "SEMI", "ANTI", "JOIN"] with
    | some "JOIN" => return some natural
    | some _ =>
      expect ["JOIN"]
      return some natural
    | none => fail
  if (← oneOf ["ANTI", "SEMI"]).isSome then
    expect ["JOIN"]
    return some natural
  if ← keyword "FULL" then
    let _ ← keyword "OUTER"
    expect ["JOIN"]
    return some natural
  if natural || isGlobal then fail
  return none

def tableSample (below : Nested) : Grammar (List Expr) := do
  if (← oneOf ["TABLESAMPLE", "SAMPLE"]).isSome then
    unless ← peekSymbol "(" do
      let _ ← identifier
    parens do
      let size ← below.expression
      let _ ← oneOf ["PERCENT", "ROWS"]
      return [size]
  else return []

def namedTable (below : Nested) : Grammar Expr := do
  let name ← objectName
  let arguments ← if ← peekSymbol "(" then callArguments below else pure []
  if ← keywords ["WITH", "ORDINALITY"] then pure ()
  let sample ← tableSample below
  let _ ← tableAlias
  let hints := (← after ["WITH"] (parens (commaList below.expression))).getD []
  let sample' ← tableSample below
  return .node name (arguments ++ sample ++ hints ++ sample')

mutual

def tableFactor (below : Nested) : Nat → Grammar Expr
  | 0 => fun _ => .error .tooDeep
  | depth + 1 => do
    if ← keyword "LATERAL" then
      if ← peekSymbol "(" then
        let query ← parens below.query
        let _ ← tableAlias
        return .subquery query
      else return ← namedTable below
    if ← peekKeyword "UNNEST" then
      let unnested ← attempt do
        expect ["UNNEST"]
        let items ← parens (commaList below.expression)
        if ← keywords ["WITH", "ORDINALITY"] then pure ()
        let _ ← tableAlias
        if ← keywords ["WITH", "OFFSET"] then
          let _ ← label notTableNames
        return Expr.node "UNNEST" items
      if let some e := unnested then return e
    if ← keyword "TABLE" then
      if ← peekSymbol "(" then
        let e ← parens below.expression
        let _ ← tableAlias
        return .node "TABLE" [e]
      else fail
    if ← peekSymbol "(" then
      match ← attempt (parens below.query) with
      | some query =>
        let _ ← tableAlias
        return .subquery query
      | none =>
        let inner ← parens (joinedTables below depth)
        let _ ← tableAlias
        return .node "()" inner
    else namedTable below

def joinedTables (below : Nested) : Nat → Grammar (List Expr)
  | 0 => fun _ => .error .tooDeep
  | depth + 1 => do
    let first ← tableFactor below depth
    let others ← many do
      match ← joinWords with
      | some natural =>
        let table ← tableFactor below depth
        return some (table :: (← joinCondition below natural))
      | none => return none
    return first :: others.flatten

end

def joinDepth : Nat := 50

def table (below : Nested) : Grammar (List Expr) := joinedTables below joinDepth

def tables (below : Nested) : Grammar (List Expr) := do
  return (← commaList (table below)).flatten

def condition (below : Nested) : Grammar (List Expr) := do
  return (← after ["WHERE"] below.expression).toList

def groupBy (below : Nested) : Grammar (List Expr) := do
  if ← keywords ["GROUP", "BY"] then
    if ← keyword "ALL" then return []
    let keys ← commaList do
      if ← keywords ["GROUPING", "SETS"] then
        return Expr.node "GROUPING SETS" (← callArguments below)
      else if ← symbol "(" then
        if ← symbol ")" then return Expr.node "()" []
        let parts ← commaList below.expression
        expectSymbol ")"
        return Expr.node "()" parts
      else below.expression
    if ← keyword "WITH" then
      match ← oneOf ["ROLLUP", "CUBE", "TOTALS"] with
      | some _ => pure ()
      | none => fail
    return keys
  else return []

def namedWindows (below : Nested) : Grammar (List Expr) := do
  let found ← after ["WINDOW"] (commaList do
    let name ← identifier
    expect ["AS"]
    if ← peekSymbol "(" then return Expr.node name (← windowSpec below)
    else return Expr.leaf (← identifier))
  return found.getD []

def distinction (below : Nested) : Grammar (List Expr) := do
  if ← keyword "DISTINCT" then
    let keys := (← after ["ON"] (parens (commaList below.expression))).getD []
    if ← peekKeyword "ALL" then fail
    return keys
  else
    if ← keyword "ALL" then
      if ← keyword "DISTINCT" then fail
    return []

def topRows (below : Nested) : Grammar (List Expr) := do
  if ← keyword "TOP" then
    let count ← if ← peekSymbol "(" then parens below.expression else literal
    let _ ← keyword "PERCENT"
    if ← keywords ["WITH", "TIES"] then pure ()
    return [count]
  else return []

def intoTable : Grammar String := do
  let _ ← oneOf ["TEMPORARY", "TEMP"]
  let _ ← keyword "UNLOGGED"
  let _ ← keyword "TABLE"
  objectName

def select (below : Nested) : Grammar Body := do
  expect ["SELECT"]
  if ← keyword "AS" then
    match ← oneOf ["VALUE", "STRUCT"] with
    | some _ => pure ()
    | none => fail
  let unique ← distinction below
  let top ← topRows below
  let items ← commaList (selectItem below)
  let into ← after ["INTO"] intoTable
  let sources := (← after ["FROM"] (tables below)).getD []
  let prewhere := (← after ["PREWHERE"] below.expression).toList
  let selection ← condition below
  let grouping ← groupBy below
  let cluster := (← after ["CLUSTER", "BY"] (commaList below.expression)).getD []
  let distribute := (← after ["DISTRIBUTE", "BY"] (commaList below.expression)).getD []
  let sorting := (← after ["SORT", "BY"] (commaList (sortKey below))).getD []
  let having := (← after ["HAVING"] below.expression).toList
  let windows ← namedWindows below
  let qualify := (← after ["QUALIFY"] below.expression).toList
  let windows' ← namedWindows below
  return .select into (unique ++ top ++ items ++ sources ++ prewhere ++ selection ++ grouping ++
    cluster ++ distribute ++ sorting ++ having ++ windows ++ qualify ++ windows')

def valueRows (below : Nested) : Grammar (List Expr) :=
  commaList do
    let _ ← keyword "ROW"
    return Expr.node "()" (← parens (commaList below.expression))

def setOperator : List Token → Option (String × Nat)
  | .word _ key :: _ =>
    if ["UNION", "EXCEPT", "MINUS"].contains key then some (key, 10)
    else if key == "INTERSECT" then some (key, 20)
    else none
  | _ => none

def setQuantifier : Grammar Unit := do
  let _ ← oneOf ["ALL", "DISTINCT"]
  if ← keywords ["BY", "NAME"] then pure ()

def plainBody (below : Nested) : Grammar Body := do
  if ← peekKeyword "SELECT" then select below
  else if ← symbol "(" then
    let query ← below.query
    expectSymbol ")"
    return .group query
  else if ← keyword "VALUES" then return .values (← valueRows below)
  else if ← keyword "TABLE" then return .table (← objectName)
  else fail

mutual

def bodyWithin (below : Nested) (strength : Nat) : Nat → Grammar Body
  | 0 => fun _ => .error .tooDeep
  | fuel + 1 => do
    let first ← plainBody below
    combined below strength first fuel

def combined (below : Nested) (strength : Nat) (left : Body) : Nat → Grammar Body
  | 0 => fun _ => .error .tooDeep
  | fuel + 1 => do
    match setOperator (← get) with
    | none => return left
    | some (operator, found) =>
      if found ≤ strength then return left
      let _ ← next
      setQuantifier
      let right ← bodyWithin below found fuel
      combined below strength (.combine operator left right) fuel

end

def body (below : Nested) : Grammar Body := do
  let tokens ← get
  bodyWithin below 0 (2 * tokens.length + 2)

def commonTable (below : Nested) : Grammar Query := do
  let _ ← identifier
  if ← peekSymbol "(" then
    let _ ← parens (commaList do
      let _ ← identifier
      attempt dataType)
  expect ["AS"]
  if ← keyword "MATERIALIZED" then pure ()
  else if ← keywords ["NOT", "MATERIALIZED"] then pure ()
  let query ← parens below.query
  if ← keyword "FROM" then
    let _ ← identifier
  return query

def limit (below : Nested) : Grammar (List Expr) := do
  if ← keyword "ALL" then return [] else return [← below.expression]

def offset (below : Nested) : Grammar (List Expr) := do
  let count ← below.expression
  let _ ← oneOf ["ROW", "ROWS"]
  return [count]

def cuts (below : Nested) : Grammar (List Expr) := do
  let before := (← after ["OFFSET"] (offset below)).getD []
  let taken ← if ← keyword "LIMIT" then do
      let count ← limit below
      if ← symbol "," then
        pure (count ++ [← below.expression])
      else pure count
    else pure []
  let later ← if before.isEmpty then do pure ((← after ["OFFSET"] (offset below)).getD []) else pure []
  let groups := (← after ["BY"] (commaList below.expression)).getD []
  return before ++ taken ++ later ++ groups

def fetchFirst (below : Nested) : Grammar (List Expr) := do
  if ← keyword "FETCH" then
    if (← oneOf ["FIRST", "NEXT"]).isNone then fail
    let count ← if (← oneOf ["ROW", "ROWS"]).isSome then pure []
      else do
        let count ← below.expression
        let _ ← keyword "PERCENT"
        if (← oneOf ["ROW", "ROWS"]).isNone then fail
        pure [count]
    unless ← keyword "ONLY" do expect ["WITH", "TIES"]
    return count
  else return []

def rowLock : Grammar (Option Unit) := do
  if ← keyword "FOR" then
    if (← oneOf ["UPDATE", "SHARE"]).isNone then fail
    if ← keyword "OF" then
      let _ ← objectName
    if ← keyword "NOWAIT" then pure ()
    else if ← keywords ["SKIP", "LOCKED"] then pure ()
    return some ()
  else return none

def assignment (below : Nested) : Grammar Expr := do
  let target ← if ← peekSymbol "(" then do pure (", ".intercalate (← columnNames)) else objectName
  expectSymbol "="
  return .node target [← below.expression]

def returning (below : Nested) : Grammar (List Expr) := do
  return (← after ["RETURNING"] (commaList (selectItem below))).getD []

def onConflict (below : Nested) : Grammar (List Expr) := do
  if ← keyword "ON" then
    if ← keyword "CONFLICT" then
      if ← keywords ["ON", "CONSTRAINT"] then
        let _ ← objectName
      else
        let _ ← optionalColumns
      expect ["DO"]
      if ← keyword "NOTHING" then return []
      expect ["UPDATE", "SET"]
      let changes ← commaList (assignment below)
      return changes ++ (← condition below)
    else
      expect ["DUPLICATE", "KEY", "UPDATE"]
      commaList (assignment below)
  else return []

def conflictWords : Grammar Unit := do
  if ← keyword "OR" then
    if (← oneOf ["REPLACE", "ROLLBACK", "ABORT", "FAIL", "IGNORE"]).isNone then fail

def insertion (below : Nested) : Grammar Change := do
  conflictWords
  let _ ← oneOf ["LOW_PRIORITY", "DELAYED", "HIGH_PRIORITY"]
  let _ ← keyword "IGNORE"
  let _ ← keyword "OVERWRITE"
  let _ ← keyword "INTO"
  let _ ← keyword "TABLE"
  let name ← objectName
  let (source, parts) ← if ← keywords ["DEFAULT", "VALUES"] then pure (none, [])
    else do
      let opens ← peekSymbol "("
      let nested := match (← get) with
        | .symbol "(" :: rest => startsWith "SELECT" rest || startsWith "WITH" rest
        | _ => false
      if opens && !nested then
        let _ ← columnNames
      let partition := (← after ["PARTITION"] (parens (commaList below.expression))).getD []
      if ← keyword "SET" then pure (none, partition ++ (← commaList (assignment below)))
      else pure (some (← below.query), partition)
  if ← keyword "AS" then
    let _ ← objectName
    let _ ← optionalColumns
  let conflict ← onConflict below
  let answer ← returning below
  return .insert name source (parts ++ conflict ++ answer)

def modification (below : Nested) : Grammar Change := do
  conflictWords
  let target ← table below
  let early := (← after ["FROM"] (tables below)).getD []
  expect ["SET"]
  let changes ← commaList (assignment below)
  let sources := (← after ["FROM"] (tables below)).getD []
  let selection ← condition below
  let answer ← returning below
  return .update (target ++ early ++ changes ++ sources ++ selection ++ answer)

def deletion (below : Nested) : Grammar (List Expr) := do
  let _ ← keyword "FROM"
  let targets ← tables below
  let sources := (← after ["USING"] (tables below)).getD []
  let selection ← condition below
  let answer ← returning below
  let order ← orderBy below
  let count := (← after ["LIMIT"] (limit below)).getD []
  return targets ++ sources ++ selection ++ answer ++ order ++ count

def query (below : Nested) : Grammar Query := do
  let commonTables ← if ← keyword "WITH" then do
      let _ ← keyword "RECURSIVE"
      commaList (commonTable below)
    else pure []
  if ← keyword "INSERT" then
    return .mk commonTables (.change (← insertion below)) []
  if ← keyword "UPDATE" then
    return .mk commonTables (.change (← modification below)) []
  let body ← body below
  let order ← orderBy below
  let cut ← cuts below
  let fetch ← fetchFirst below
  let _ ← many rowLock
  return .mk commonTables body (order ++ cut ++ fetch)

end NestedTx.Sql.Grammar
