namespace NestedTx.Sql

mutual

inductive Expr
  | leaf (text : String)
  | node (head : String) (parts : List Expr)
  | subquery (query : Query)

inductive Query
  | mk (commonTables : List Query) (body : Body) (clauses : List Expr)

inductive Body
  | select (into : Option String) (parts : List Expr)
  | group (query : Query)
  | combine (operator : String) (left right : Body)
  | values (rows : List Expr)
  | table (name : String)
  | change (change : Change)

inductive Change
  | insert (target : String) (source : Option Query) (parts : List Expr)
  | update (parts : List Expr)

end

inductive Statement
  | query (query : Query)
  | change (change : Change)
  | delete (parts : List Expr)
  | createTable (name : String) (parts : List Expr) (source : Option Query)
  | createIndex (parts : List Expr)
  | alterTable (name : String) (parts : List Expr)
  | drop (object : String) (names : List String)
  | startTransaction
  | commit
  | rollback
  | savepoint (name : String)
  | release (name : String)
  | createView (name : String) (source : Query)
  | explain (statement : Statement)
  | prepare (name : String) (statement : Statement)
  | merge (parts : List Expr)
  | utility (verb : String) (parts : List Expr)

mutual

def Expr.changes : Expr → Bool
  | .leaf _ => false
  | .node _ parts => Expr.changesAny parts
  | .subquery query => query.changes

def Expr.changesAny : List Expr → Bool
  | [] => false
  | part :: rest => part.changes || Expr.changesAny rest

def Query.changes : Query → Bool
  | .mk commonTables body clauses =>
    Query.changesAny commonTables || body.changes || Expr.changesAny clauses

def Query.changesAny : List Query → Bool
  | [] => false
  | query :: rest => query.changes || Query.changesAny rest

def Body.changes : Body → Bool
  | .select into parts => into.isSome || Expr.changesAny parts
  | .group query => query.changes
  | .combine _ left right => left.changes || right.changes
  | .values rows => Expr.changesAny rows
  | .table _ => false
  | .change _ => true

end

def Statement.changes : Statement → Bool
  | .query q => q.changes
  | .change _ => true
  | .delete _ => true
  | .merge _ => true
  | .createTable _ parts source => Expr.changesAny parts || source.any Query.changes
  | .createIndex parts => Expr.changesAny parts
  | .alterTable _ parts => Expr.changesAny parts
  | .createView _ source => source.changes
  | .explain statement => statement.changes
  | .prepare _ statement => statement.changes
  | .utility _ parts => Expr.changesAny parts
  | _ => false

end NestedTx.Sql
