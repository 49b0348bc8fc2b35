import EntitySql.Conventions.Usual
import EntitySql.Proofs.Compile.Later
import EntitySql.Proofs.Query.Echoes
import EntitySql.Proofs.Query.Markers
import EntitySql.Proofs.Reading.Renaming

/-!
# Conditions behind earlier values

A query compiles a condition behind the values that its conditions before have bound.  The
condition is the one that it would be by itself, with later numbers in its markers.
-/

namespace EntitySql

open EntitySql.Sql

namespace Parameters

/-- Names that are given next are the first names, as many positions later. -/
theorem nextNames_eq_map_laterName (earlier : Parameters) (count : Nat) :
    earlier.nextNames count = (nextNames {} count).map (laterName earlier.size) := by
  have empty : ({} : Parameters).size = 0 := rfl
  have shifted : laterName earlier.size ∘ nameAt = nameAt ∘ (earlier.size + ·) := by
    funext position
    rw [Function.comp_apply, laterName_nameAt, Function.comp_apply, Nat.add_comm]
  rw [nextNames, nextNames, empty, List.map_map, shifted, ← List.map_map, List.map_add_range',
    Nat.add_zero]

/-- Values bound behind others have the names that they have by themselves, as many positions
later. -/
theorem entries_bindAll (earlier : Parameters) (values : List Value) :
    (earlier.bindAll values).entries =
      earlier.entries ++
        (ofValues values).entries.map (Prod.map (laterName earlier.size) id) := by
  have sameLength : earlier.names.length = earlier.values.length := by simp
  have byThemselves : (ofValues values).entries = (nextNames {} values.length).zip values := by
    rw [entries_eq_zip, ofValues, names_bindAll, values_bindAll]
    rfl
  rw [entries_eq_zip, names_bindAll, values_bindAll, List.zip_append sameLength,
    ← entries_eq_zip, nextNames_eq_map_laterName, byThemselves, List.zip_map_left]

end Parameters

open Parameters

namespace Scope

variable {scope : Scope} {predicate : Expression} {memory : Memory}

/-- Behind earlier values a predicate is compiled as it is by itself, but for the names of
its parameters. -/
theorem run_condition_behind (scope : Scope) (predicate : Expression) (earlier : Parameters)
    (memory : Memory) :
    let first := (scope.condition {} predicate).run memory
    (scope.condition earlier predicate).run memory =
      ((first.1.1.map (Condition.rename (laterName earlier.size)),
        earlier.bindAll first.1.2.values), first.2) := by
  intro first
  have behind : (predicate.condition scope.entity).run.run { parameters := earlier } = _ :=
    predicate.runsBehind_condition {}
  have ran : first = _ :=
    scope.catalog.condition_run scope.entity scope.dialect {} predicate memory
  rw [condition, Catalog.condition_run, behind, ran]
  rcases (predicate.condition scope.entity).run.run {} with ⟨failure | own, draft⟩
  · rfl
  · dsimp only [Except.map]
    rw [Condition.rename_map]
    rfl

/-- The values that a predicate binds by itself are named from the start. -/
theorem bound_eq_ofValues (scope : Scope) (predicate : Expression) (memory : Memory) :
    ∃ values, ((scope.condition {} predicate).run memory).1.2 = ofValues values := by
  rw [run_condition]
  exact (@Expression.grows_condition scope.entity predicate {}).parameters

/-- A condition that nothing was bound before can be read in full. -/
theorem legible_of_plain
    (plain : ∀ property ∈ scope.entity.properties, Plain ((scope.column property).run memory).1)
    {condition : Condition String}
    (compiled : ((scope.condition {} predicate).run memory).1.1 = .ok condition) :
    condition.Legible := by
  obtain ⟨own, draft, gives, -, rfl⟩ :=
    scope.run_condition_ok (Prod.ext (Prod.ext compiled rfl) rfl)
  obtain ⟨balances, ownColumns⟩ := Expression.balances_condition gives
  have numbered : draft.parameters.Numbered :=
    (gives.grows (Expression.grows_condition predicate)).parameters.numbered numbered_empty
  constructor
  · intro name occurs
    have counted : draft.parameters.names.count name =
        ({} : Parameters).names.count name + own.parameters.count name := by
      simpa using balances name
    have bound : name ∈ draft.parameters.names := by
      rw [Condition.parameters_map] at occurs
      rw [← List.count_pos_iff] at occurs ⊢
      omega
    rw [numbered] at bound
    obtain ⟨position, -, rfl⟩ := List.mem_map.mp bound
    exact Query.isWord_nameAt position
  · intro column member
    rw [Condition.columns_map] at member
    obtain ⟨property, propertyMember, rfl⟩ := List.mem_map.mp member
    exact plain property (List.mem_of_find?_eq_some (ownColumns property propertyMember))

/-- Behind earlier values a predicate has a condition if it has one by itself, and else
fails for the same reason.  It binds the same values, and its text is the same, with every
name as many positions later as there are earlier values. -/
theorem condition_behind_earlier (kind : DialectKind) (catalog : Catalog) (entity : Entity)
    (predicate : Expression) (earlier : Parameters) {memory : Memory}
    (plain : ∀ property ∈ entity.properties,
      Plain ((Scope.column ⟨catalog, entity, kind.dialect⟩ property).run memory).1) :
    let scope : Scope := ⟨catalog, entity, kind.dialect⟩
    let first := (scope.condition {} predicate).run memory
    let later := (scope.condition earlier predicate).run memory
    later.1.1.map (Condition.text kind.dialect) =
        first.1.1.map (fun condition =>
          renameMarkers (laterName earlier.size) (condition.text kind.dialect)) ∧
      later.1.2.entries =
        earlier.entries ++ first.1.2.entries.map (Prod.map (laterName earlier.size) id) ∧
      later.2 = first.2 := by
  intro scope first later
  have laterEq : later = _ := scope.run_condition_behind predicate earlier memory
  obtain ⟨values, bound⟩ := scope.bound_eq_ofValues predicate memory
  rw [laterEq]
  refine ⟨?_, ?_, rfl⟩
  · cases compiled : first.1.1 with
    | error failure => rfl
    | ok condition =>
        have legible := legible_of_plain plain compiled
        exact congrArg Except.ok (Condition.text_rename kind legible)
  · have sameValues : first.1.2.values = values := by
      rw [bound, ofValues, values_bindAll]
      rfl
    have firstEntries : first.1.2.entries = (ofValues values).entries := by rw [bound]
    rw [sameValues, firstEntries, entries_bindAll]

/-- Two markers behind nine earlier values. -/
theorem condition_behind_earlier_of_nine :
    let person : Entity :=
      { name := "Person"
        path := "tests::Person"
        properties := [⟨"Age", .int, false, true, false, false, false, none, none⟩,
          ⟨"Name", .text, true, true, false, false, false, none, none⟩] }
    let scope : Scope := ⟨⟨Conventions.usual true, true⟩, person, DialectKind.sqlServer.dialect⟩
    let predicate : Expression :=
      .binary (.connect .and)
        (.call .startsWith (.column ⟨"Name", .text⟩) [.constant (.scalar (.text "A"))])
        (.binary (.compare .less) (.column ⟨"Age", .int⟩) (.constant (.scalar (.int 18))))
    let earlier : Parameters := ofValues ([1, 2, 3, 4, 5, 6, 7, 8, 9].map Value.int)
    let first := (scope.condition {} predicate).run {}
    let later := (scope.condition earlier predicate).run {}
    (∀ property ∈ person.properties, Plain ((scope.column property).run {}).1) ∧
      later.1.1.map (Condition.text scope.dialect) =
        first.1.1.map (fun condition =>
          renameMarkers (laterName 9) (condition.text scope.dialect)) ∧
      later.1.2.entries =
        earlier.entries ++ first.1.2.entries.map (Prod.map (laterName 9) id) ∧
      later.2 = first.2 := by
  intro person scope predicate earlier first later
  have plain : ∀ property ∈ person.properties, Plain ((scope.column property).run {}).1 := by
    decide
  exact ⟨plain, condition_behind_earlier .sqlServer ⟨Conventions.usual true, true⟩ person
    predicate earlier plain⟩

end Scope

end EntitySql
