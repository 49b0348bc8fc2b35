import EntitySql.Proofs.Query.Echoes
import EntitySql.Proofs.Query.Groups

/-!
# What a run of calls has asked for

The memory knows a column by the name of its property.  Once a property of the entity was
asked for, its column answers for every property of that name, and of the calls that were made
nothing else bears on a later answer.  Calls of different groups ask for the same properties
in any order.
-/

namespace EntitySql

open Recall

namespace Scope

/-- The property that the entity has under the name of a property, if it has one. -/
def own (scope : Scope) (property : Property) : Property :=
  (scope.entity.property? property.name).getD property

/-- One memory answers for columns as the other does after the entity's properties of these
names were asked for. -/
def AnswersAfter (scope : Scope) (names : List String) (before after : Memory) : Prop :=
  ∀ property, scope.catalog.columnName scope.entity scope.dialect after property =
    scope.catalog.columnName scope.entity scope.dialect before
      (if property.name ∈ names then scope.own property else property)

variable {scope : Scope} {first second third : Memory} {names others : List String}

theorem name_own (scope : Scope) (property : Property) :
    (scope.own property).name = property.name := by
  rw [own]
  cases found : scope.entity.property? property.name with
  | none => rfl
  | some other => simpa using List.find?_some found

@[simp] theorem own_own (scope : Scope) (property : Property) :
    scope.own (scope.own property) = scope.own property := by
  rw [own, name_own, own]
  cases scope.entity.property? property.name <;> rfl

theorem own_of_name_eq {property other : Property}
    (isOwn : scope.entity.property? property.name = some property)
    (same : other.name = property.name) : scope.own other = property := by
  rw [own, same, isOwn]
  rfl

theorem answersAfter_of_columns_eq (same : second.columns = first.columns) :
    scope.AnswersAfter [] first second := by
  intro property
  simp [Catalog.columnName_eq_findD, same]

theorem AnswersAfter.trans (earlier : scope.AnswersAfter names first second)
    (later : scope.AnswersAfter others second third) :
    scope.AnswersAfter (names ++ others) first third := by
  intro property
  rw [later, earlier]
  by_cases isEarlier : property.name ∈ names
  · by_cases isLater : property.name ∈ others <;> simp [isEarlier, isLater, name_own]
  · by_cases isLater : property.name ∈ others <;> simp [isEarlier, isLater, name_own]

theorem answersAfter_column {property : Property}
    (isOwn : scope.entity.property? property.name = some property) (memory : Memory) :
    scope.AnswersAfter [property.name] memory ((scope.column property).run memory).2 := by
  intro other
  obtain ⟨after, ran, answers⟩ := scope.run_column property memory
  rw [column, ran, answers]
  have sameKey : Catalog.columnKey scope.entity scope.dialect other =
      Catalog.columnKey scope.entity scope.dialect property ↔ other.name = property.name := by
    simp [Catalog.columnKey]
  by_cases same : other.name = property.name
  · rw [if_pos (sameKey.mpr same), if_pos (by simpa using same), own_of_name_eq isOwn same]
  · rw [if_neg fun key => same (sameKey.mp key), if_neg (by simpa using same)]

theorem answersAfter_columns {properties : List Property} (owns : scope.entity.Owns properties)
    (memory : Memory) :
    scope.AnswersAfter (properties.map (·.name)) memory
      ((scope.columns properties).run memory).2 := by
  induction properties generalizing memory with
  | nil => exact answersAfter_of_columns_eq rfl
  | cons property rest ih =>
      have asked := answersAfter_column (owns property (by simp)) memory
      have askedRest := ih (fun other member => owns other (by simp [member]))
        ((scope.column property).run memory).2
      rw [columns, Catalog.columns, List.mapM_cons]
      exact asked.trans askedRest

/-- The names that are looked up when a predicate is compiled. -/
def compiledNames (scope : Scope) (parameters : Parameters) (predicate : Expression) :
    List String :=
  ((predicate.condition scope.entity).run.run { parameters }).2.lookups.map (·.name)

theorem answersAfter_condition (parameters : Parameters) (predicate : Expression)
    (memory : Memory) :
    scope.AnswersAfter (scope.compiledNames parameters predicate) memory
      ((scope.condition parameters predicate).run memory).2 := by
  obtain ⟨found, lookups, owns⟩ :=
    (@Expression.grows_condition scope.entity predicate { parameters }).lookups
  rw [List.nil_append] at lookups
  have asked := answersAfter_columns owns memory
  rw [← lookups] at asked
  exact asked

/-- Of several names, those before the first that the entity does not have. -/
def knownNames (scope : Scope) (names : List String) : List String :=
  names.takeWhile fun name => (scope.entity.property? name).isSome

theorem answersAfter_columnsNamed (names : List String) (memory : Memory) :
    scope.AnswersAfter (scope.knownNames names) memory
      ((scope.columnsNamed names).run.run memory).2 := by
  induction names generalizing memory with
  | nil => exact answersAfter_of_columns_eq rfl
  | cons name rest ih =>
      have step : scope.columnsNamed (name :: rest) = (do
          let column ← scope.catalog.columnNamed scope.entity scope.dialect name
          let columns ← scope.columnsNamed rest
          return column :: columns) := List.mapM_cons
      rw [step, knownNames]
      cases found : scope.entity.property? name with
      | none =>
          have failed : (scope.catalog.columnNamed scope.entity scope.dialect name).run.run
              memory = (.error (.unknownProperty scope.entity.name name), memory) := by
            rw [Catalog.columnNamed, found]
            rfl
          rw [List.takeWhile_cons_of_neg (by simp [found]), Attempt.run_bind_of_error failed]
          exact answersAfter_of_columns_eq rfl
      | some property =>
          have isOwn := scope.entity.owns_property? found property (by simp)
          have sameName : property.name = name := by simpa using List.find?_some found
          have asked := answersAfter_column isOwn memory
          rcases ran : (scope.column property).run memory with ⟨column, middle⟩
          have named : (scope.catalog.columnNamed scope.entity scope.dialect name).run.run
              memory = (.ok column, middle) := by
            rw [Catalog.columnNamed, found]
            exact Attempt.run_lift ran
          rw [ran, sameName] at asked
          rw [List.takeWhile_cons_of_pos (by simp [found]), Attempt.run_bind_of_ok named]
          have askedRest := asked.trans (ih middle)
          rcases ranRest : (scope.columnsNamed rest).run.run middle
            with ⟨failure | columns, after⟩
          · rw [ranRest] at askedRest
            rw [Attempt.run_bind_of_error ranRest]
            exact askedRest
          · rw [ranRest] at askedRest
            rw [Attempt.run_bind_of_ok ranRest]
            exact askedRest

theorem answersAfter_table (memory : Memory) :
    scope.AnswersAfter [] memory ((scope.table).run memory).2 := by
  obtain ⟨events, ran⟩ := scope.catalog.table_run scope.entity scope.dialect memory
  rw [table, ran]
  exact answersAfter_of_columns_eq rfl

end Scope

namespace QueryCall

open Scope

variable {query : Query}

/-- The names that a call on a query asks for. -/
def askedNames (query : Query) : QueryCall → List String
  | .startWhere predicate =>
      if query.whereClause.isNone then query.scope.compiledNames query.parameters predicate else []
  | .extendWhere _ predicate =>
      if query.whereClause.isNone then [] else query.scope.compiledNames query.parameters predicate
  | .orderBy _ names => query.scope.knownNames names
  | .select names => query.scope.knownNames names
  | _ => []

theorem askedNames_only (query : Query) (call : QueryCall) :
    call.askedNames (query.only call.group) = call.askedNames query := by
  cases call <;> rfl

theorem answersAfter_compiling (query : Query) (predicate : Expression)
    (place : Query → Condition String → Query) (memory : Memory) :
    query.scope.AnswersAfter (query.scope.compiledNames query.parameters predicate) memory
      ((compiling query predicate place).run memory).2 := by
  have asked := @answersAfter_condition query.scope query.parameters predicate memory
  rcases ran : (query.scope.condition query.parameters predicate).run memory
    with ⟨⟨failure | condition, parameters⟩, after⟩
  · rw [ran] at asked
    rw [compiling, run_bind_of ran]
    exact asked
  · rw [ran] at asked
    rw [compiling, run_bind_of ran]
    exact asked

theorem answersAfter_perform (query : Query) (call : QueryCall) (memory : Memory) :
    query.scope.AnswersAfter (call.askedNames query) memory
      ((call.perform query).run memory).2 := by
  cases call with
  | startWhere predicate =>
      rw [perform_startWhere, askedNames]
      cases query.whereClause with
      | some clause => exact answersAfter_of_columns_eq rfl
      | none => exact answersAfter_compiling query predicate _ memory
  | extendWhere connective predicate =>
      rw [perform_extendWhere, askedNames]
      cases query.whereClause with
      | none => exact answersAfter_of_columns_eq rfl
      | some clause => exact answersAfter_compiling query predicate _ memory
  | orderBy direction names =>
      have asked := @answersAfter_columnsNamed query.scope names memory
      rcases ran : (query.scope.columnsNamed names).run.run memory with ⟨outcome, after⟩
      rw [ran] at asked
      rw [perform_orderBy, run_bind_of ran]
      cases outcome <;> exact asked
  | onPage page => exact answersAfter_of_columns_eq rfl
  | select names =>
      have asked := @answersAfter_columnsNamed query.scope names memory
      rcases ran : (query.scope.columnsNamed names).run.run memory with ⟨outcome, after⟩
      rw [ran] at asked
      rw [perform_select, run_bind_of ran]
      cases outcome with
      | error failure => exact asked
      | ok columns =>
          have whole := asked.trans (answersAfter_table after)
          rw [List.append_nil] at whole
          exact whole
  | selectAll => exact answersAfter_table memory

/-- The names that a run of calls asks for, each call being made on the query that it finds. -/
def askedAlong (base : Memory) : List QueryCall → Query → List String
  | [], _ => []
  | call :: rest, query =>
      call.askedNames query ++ askedAlong base rest ((call.perform query).run base).1.2

/-- A run of calls has its names asked for and nothing else, if names are steady. -/
theorem answersAfter_performAll {invariant : Memory → Prop} (calls : List QueryCall)
    (steady : query.scope.Steady invariant) {base memory : Memory} (holds : invariant base)
    (starts : invariant memory) :
    query.scope.AnswersAfter (askedAlong base calls query) memory
      ((performAll calls query).run memory).2 := by
  induction calls generalizing query memory with
  | nil => exact answersAfter_of_columns_eq rfl
  | cons call rest ih =>
      have settles := settles_perform steady call
      have middleHolds := settles.keeps starts
      have scopeEq := settles.run_result starts
      have sameNext := settles.run_eq holds starts
      have asked := answersAfter_perform query call memory
      rcases ran : (call.perform query).run memory with ⟨⟨reply, next⟩, middle⟩
      rw [ran] at middleHolds scopeEq sameNext asked
      have askedRest := ih (scopeEq ▸ steady : next.scope.Steady invariant) middleHolds
      rw [scopeEq] at askedRest
      rcases ranRest : (performAll rest next).run middle with ⟨⟨replies, last⟩, after⟩
      rw [ranRest] at askedRest
      rw [askedAlong, sameNext, performAll, run_bind_of ran, run_bind_of ranRest]
      exact asked.trans askedRest

/-- What a run asks for, the calls of one of its groups ask for by themselves. -/
theorem mem_askedAlong_iff (base : Memory) (name : String) (calls : List QueryCall)
    (query : Query) :
    name ∈ askedAlong base calls query ↔
      ∃ group, name ∈ askedAlong base (calls.filter (·.group == group)) (query.only group) := by
  induction calls generalizing query with
  | nil => simp [askedAlong]
  | cons call rest ih =>
      have own : askedAlong base ((call :: rest).filter (·.group == call.group))
          (query.only call.group) =
            call.askedNames query ++ askedAlong base (rest.filter (·.group == call.group))
              (((call.perform query).run base).1.2.only call.group) := by
        rw [List.filter_cons_of_pos (by simp), askedAlong, askedNames_only, perform_only]
        rfl
      have apart {group : CallGroup} (differs : group ≠ call.group) :
          askedAlong base ((call :: rest).filter (·.group == group)) (query.only group) =
            askedAlong base (rest.filter (·.group == group))
              (((call.perform query).run base).1.2.only group) := by
        have unchanged := (perform_apart query call differs base trivial).1
        rw [List.filter_cons_of_neg (by simpa using Ne.symm differs), unchanged]
      rw [askedAlong, List.mem_append, ih]
      constructor
      · rintro (asked | ⟨group, asked⟩)
        · exact ⟨call.group, own ▸ List.mem_append_left _ asked⟩
        · by_cases same : group = call.group
          · subst same
            exact ⟨call.group, own ▸ List.mem_append_right _ asked⟩
          · exact ⟨group, apart same ▸ asked⟩
      · rintro ⟨group, asked⟩
        by_cases same : group = call.group
        · subst same
          rw [own] at asked
          exact (List.mem_append.mp asked).imp_right fun later => ⟨call.group, later⟩
        · exact .inr ⟨group, apart same ▸ asked⟩

end QueryCall

end EntitySql
