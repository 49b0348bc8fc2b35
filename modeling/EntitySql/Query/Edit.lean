import EntitySql.Query.Basic

/-!
# Putting a query together

A query is put together call by call.  Predicates are compiled when they are
added, so a predicate without an SQL form is refused at once, and what it has
bound by then is dropped again.
-/

namespace EntitySql

/-- Work on a query.  A failure leaves the query as it is by then. -/
abbrev Edit (α : Type) := ExceptT Failure (StateT Query (StateM Memory)) α

namespace Edit

/-- Work that uses the memory only. -/
def attempt {α : Type} (work : Attempt α) : Edit α := do
  let result ← work.run
  MonadExcept.ofExcept result

/-- Compiles a predicate and binds its values after those of the query. -/
def compile (predicate : Expression) : Edit (Condition String) := do
  let query ← get
  let (result, parameters) ← query.scope.condition query.parameters predicate
  match result with
  | .ok condition => do
      set { query with parameters }
      return condition
  | .error failure => do
      set { query with parameters := parameters.truncate query.parameters.size }
      throw failure

/-- A predicate stands for itself in a where clause when it is a boolean column
or a negation; any other is grouped. -/
def needsGroup (predicate : Expression) : Bool :=
  !(predicate.isBoolColumn || predicate.isNegation)

/-- Starts the where clause. -/
def startWhere (predicate : Expression) : Edit Unit := do
  match (← get).whereClause with
  | some _ => throw .whereAlreadyStarted
  | none => do
      let condition ← compile predicate
      let clause : WhereClause := ⟨condition, needsGroup predicate, []⟩
      modify fun query => { query with whereClause := some clause }

/-- Adds a condition to the where clause. -/
def extendWhere (connective : Connective) (predicate : Expression) : Edit Unit := do
  match (← get).whereClause with
  | none => throw .whereNotStarted
  | some clause => do
      let condition ← compile predicate
      modify fun query => { query with whereClause := some (clause.extend connective condition) }

/-- Orders by the named properties, after the ordering so far. -/
def orderBy (direction : Direction) (names : List String) : Edit Unit := do
  let columns ← attempt ((← get).scope.columnsNamed names)
  let terms : List OrderTerm := columns.map fun column => ⟨column, direction⟩
  modify fun query => { query with ordering := query.ordering ++ terms }

/-- Asks for one page of rows. -/
def onPage (page : Page) : Edit Unit :=
  modify fun query => { query with page := some page }

/-- Selects the named properties. -/
def select (names : List String) : Edit Unit := do
  let scope := (← get).scope
  let columns ← attempt (scope.columnsNamed names)
  let table ← scope.table
  modify fun query => { query with selection := some ⟨some columns, table⟩ }

/-- Selects all columns. -/
def selectAll : Edit Unit := do
  let table ← (← get).scope.table
  modify fun query => { query with selection := some ⟨none, table⟩ }

end Edit

/-- A call that adds to a query. -/
inductive QueryCall where
  | startWhere (predicate : Expression)
  | extendWhere (connective : Connective) (predicate : Expression)
  | orderBy (direction : Direction) (names : List String)
  | onPage (page : Page)
  | select (names : List String)
  | selectAll

namespace QueryCall

/-- What a call does to a query. -/
def edit : QueryCall → Edit Unit
  | startWhere predicate => Edit.startWhere predicate
  | extendWhere connective predicate => Edit.extendWhere connective predicate
  | orderBy direction names => Edit.orderBy direction names
  | onPage page => Edit.onPage page
  | select names => Edit.select names
  | selectAll => Edit.selectAll

/-- Makes a call on a query. -/
def perform (call : QueryCall) (query : Query) : Recall (Except Failure Unit × Query) :=
  call.edit.run.run query

/-- Makes calls one after another, each on the query that the last one left. -/
def performAll : List QueryCall → Query → Recall (List (Except Failure Unit) × Query)
  | [], query => return ([], query)
  | call :: rest, query => do
      let (reply, query) ← call.perform query
      let (replies, query) ← performAll rest query
      return (reply :: replies, query)

/-- The calls that were answered without a failure. -/
def succeeding (calls : List QueryCall) (replies : List (Except Failure Unit)) :
    List QueryCall :=
  ((calls.zip replies).filter (·.2.isOk)).map (·.1)

end QueryCall

end EntitySql
