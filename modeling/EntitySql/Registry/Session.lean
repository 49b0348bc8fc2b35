import EntitySql.Registry.Basic

/-!
# Sessions

A session is a sequence of requests to one registry: for names, for statements, and
for calls on queries, which go by names of the client's choice.  All of them share
the memory of the registry.
-/

namespace EntitySql

/-- What a request is answered with. -/
inductive Answer where
  | text (text : String)
  | texts (texts : List String)
  | keys (keys : List KeyProperty)
  | properties (properties : List Property)
  | link (link : ForeignKey)
  | statement (sql : String) (parameters : Parameters)
  | done
  /-- No query goes by the name. -/
  | noQuery

/-- A request for a name, or for the role of a property. -/
inductive NameRequest where
  | table (entity : Entity) (dialect : Dialect)
  | column (entity : Entity) (dialect : Dialect) (property : Property)
  | columnNamed (entity : Entity) (dialect : Dialect) (name : String)
  | keys (entity : Entity)
  | keyColumns (entity : Entity) (dialect : Dialect)
  | mapped (entity : Entity)
  | foreignKey (source related : Entity)

/-- Answers a request for a name. -/
def NameRequest.answer (catalog : Catalog) : NameRequest → Attempt Answer
  | .table entity dialect => do return .text (← catalog.table entity dialect)
  | .column entity dialect property => do
      return .text (← catalog.column entity dialect property)
  | .columnNamed entity dialect name => do
      return .text (← catalog.columnNamed entity dialect name)
  | .keys entity => do return .keys (← catalog.keys entity)
  | .keyColumns entity dialect => do return .texts (← catalog.keyColumns entity dialect)
  | .mapped entity => do return .properties (← catalog.mapped entity)
  | .foreignKey source related => do return .link (← catalog.foreignKey source related)

/-- A statement whose text depends on the metadata alone. -/
inductive FixedStatement where
  | get
  | getAll
  | insert
  | update
  | delete
  | deleteAll
  | count
  | any
  | projectAll
  | getWith (related : Entity)
  | getAllWith (related : Entity)

namespace FixedStatement

/-- The kind under which the text is remembered. -/
def kind : FixedStatement → StatementKind
  | get => .get
  | getAll => .getAll
  | insert => .insert
  | update => .update
  | delete => .delete
  | deleteAll => .deleteAll
  | count => .count
  | any => .any
  | projectAll => .projectAll
  | getWith _ => .getJoined
  | getAllWith _ => .getAllJoined

/-- The related entity of a join. -/
def related? : FixedStatement → Option Entity
  | getWith related | getAllWith related => some related
  | _ => none

/-- The text of the statement. -/
def text (scope : Scope) : FixedStatement → Attempt String
  | get => scope.get
  | getAll => scope.getAll
  | insert => scope.insert
  | update => scope.update
  | delete => scope.delete
  | deleteAll => scope.deleteAll
  | count => scope.count
  | any => scope.any
  | projectAll => scope.projectAll
  | getWith related => scope.getWith related
  | getAllWith related => scope.getAllWith related

end FixedStatement

/-- A request for a statement. -/
inductive StatementRequest where
  | fixed (statement : FixedStatement)
  | deleteWhere (predicate : Expression)
  | countWhere (predicate : Expression)
  | anyWhere (predicate : Expression)
  | select (predicate : Expression)
  | selectPaged (predicate : Expression) (page : Page)
  | first (predicate : Expression)
  | paged (page : Page)
  | project (names : List String)

/-- A statement with the values that are bound in it, as an answer. -/
def Answer.ofBound (work : Attempt (String × Parameters)) : Attempt Answer := do
  let (sql, parameters) ← work
  return .statement sql parameters

/-- Answers a request for a statement. -/
def StatementRequest.answer (scope : Scope) : StatementRequest → Attempt Answer
  | .fixed statement => do return .text (← statement.text scope)
  | .deleteWhere predicate => Answer.ofBound (scope.deleteWhere predicate)
  | .countWhere predicate => Answer.ofBound (scope.countWhere predicate)
  | .anyWhere predicate => Answer.ofBound (scope.anyWhere predicate)
  | .select predicate => Answer.ofBound (scope.select predicate)
  | .selectPaged predicate page => Answer.ofBound (scope.selectPaged predicate page)
  | .first predicate => Answer.ofBound (scope.first predicate)
  | .paged page => do return .text (← scope.paged page)
  | .project names => do return .text (← scope.project names)

/-- A request to a registry. -/
inductive Request where
  | resolve (request : NameRequest)
  | statement (entity : Entity) (dialect : Dialect) (request : StatementRequest)
  /-- Starts a query, in place of an earlier one of its name. -/
  | start (name : String) (entity : Entity) (dialect : Dialect)
  | call (name : String) (edit : QueryCall)
  | render (name : String)

/-- The queries of a session by name. -/
abbrev Queries := String → Option Query

/-- The queries with another one under a name. -/
def Queries.put (queries : Queries) (name : String) (query : Query) : Queries :=
  fun other => if other = name then some query else queries other

namespace Request

/-- Makes a request.  A failure leaves the queries as they are. -/
def perform (registry : Registry) (queries : Queries) :
    Request → Recall (Except Failure Answer × Queries)
  | resolve request => do return (← (request.answer registry.catalog).run, queries)
  | statement entity dialect request => do
      return (← (request.answer (registry.statements entity dialect)).run, queries)
  | start name entity dialect =>
      return (.ok .done, queries.put name (registry.query entity dialect))
  | call name edit =>
      match queries name with
      | none => return (.ok .noQuery, queries)
      | some query => do
          let (outcome, query) ← edit.perform query
          return (outcome.map fun _ => .done, queries.put name query)
  | render name =>
      match queries name with
      | none => return (.ok .noQuery, queries)
      | some query => do
          let outcome ← query.render.run
          return (outcome.map fun sql => .statement sql query.parameters, queries)

/-- Makes requests one after another. -/
def performAll (registry : Registry) :
    List Request → Queries → Recall (List (Except Failure Answer) × Queries)
  | [], queries => return ([], queries)
  | request :: rest, queries => do
      let (reply, queries) ← request.perform registry queries
      let (replies, queries) ← performAll registry rest queries
      return (reply :: replies, queries)

/-- The query that the request goes on with. -/
def query? : Request → Option String
  | call name _ | render name => some name
  | _ => none

/-- The query that the request starts. -/
def started? : Request → Option String
  | start name _ _ => some name
  | _ => none

/-- The requests on a query since it was last started. -/
def sinceStart (name : String) (past : List Request) : List Request :=
  past.foldl (fun run request =>
    if request.started? = some name then [request]
    else if request.query? = some name then run ++ [request]
    else run) []

/-- The earlier requests that a request builds on: those on its query. -/
def background (past : List Request) (request : Request) : List Request :=
  match request.query? with
  | none => []
  | some name => sinceStart name past

end Request

/-- A session on the registry as it was just built. -/
def Registry.session (registry : Registry) (requests : List Request) :
    (List (Except Failure Answer) × Queries) × Memory :=
  (Request.performAll registry requests fun _ => none).run registry.freshMemory

/-- The replies in a session. -/
def Registry.replies (registry : Registry) (requests : List Request) :
    List (Except Failure Answer) :=
  (registry.session requests).1.1

end EntitySql
