import EntitySql.Conventions.Usual
import EntitySql.Proofs.Memory.PlainNames
import EntitySql.Proofs.Query.Calls
import EntitySql.Statement.Build

/-!
# Markers and parameters agree

Whatever calls are made on a query, its parameters are numbered in the order in which
they were bound, and its text has the marker of each of them once.
-/

namespace EntitySql

open EntitySql.Sql EntitySql.Text Recall

namespace WhereClause

/-- The parameters of the conditions in order. -/
def parameters (clause : WhereClause) : List String :=
  clause.first.parameters ++ clause.rest.flatMap fun link => link.2.parameters

/-- The conditions in order. -/
def conditions (clause : WhereClause) : List (Condition String) :=
  clause.first :: clause.rest.map (·.2)

theorem marks_links (kind : DialectKind) {links : List (Connective × Condition String)}
    (legible : ∀ link ∈ links, link.2.Legible) :
    Marks (String.join (links.map (linkText kind.dialect)))
        (links.flatMap fun link => link.2.parameters) ∧
      Breaks (String.join (links.map (linkText kind.dialect))).toList := by
  induction links with
  | nil =>
      have plain : Plain "" := by decide
      exact ⟨plain.marks, by simp [Breaks]⟩
  | cons link links ih =>
      obtain ⟨connective, condition⟩ := link
      obtain ⟨marksRest, breaksRest⟩ := ih fun other member => legible other (by simp [member])
      have group : (Condition.group condition).Legible :=
        let own := legible (connective, condition) (by simp)
        ⟨own.words, own.plain⟩
      have divides := divides_connective connective
      have marksLink := divides.plain.append_marks (Condition.marks_text kind group)
      have whole := marksLink.append breaksRest marksRest
      have breaks := divides.breaks ((Condition.group condition).text kind.dialect ++
        String.join (links.map (linkText kind.dialect)))
      simp only [List.map_cons, String.join_cons, linkText, List.flatMap_cons]
      simp only [String.append_assoc] at whole breaks ⊢
      exact ⟨whole, breaks⟩

/-- The markers in a where clause are the parameters of its conditions. -/
theorem marks_text (kind : DialectKind) {clause : WhereClause}
    (legible : ∀ condition ∈ clause.conditions, condition.Legible) :
    Marks (clause.text kind.dialect) clause.parameters := by
  have first : clause.firstUnit.Legible ∧
      clause.firstUnit.parameters = clause.first.parameters := by
    have own := legible clause.first (by simp [conditions])
    unfold firstUnit
    split
    · exact ⟨⟨own.words, own.plain⟩, rfl⟩
    · exact ⟨own, rfl⟩
  have head : Plain " where " := by decide
  obtain ⟨marksRest, breaksRest⟩ := marks_links kind fun link member =>
    legible link.2 (by simpa [conditions] using .inr ⟨link.1, member⟩)
  have marksFirst := head.append_marks (Condition.marks_text kind first.1)
  rw [first.2] at marksFirst
  exact marksFirst.append breaksRest marksRest

end WhereClause

theorem plain_selection {selection : Selection} (table : Plain selection.table)
    (columns : ∀ names, selection.columns = some names → ∀ name ∈ names, Plain name) :
    Plain selection.text := by
  have select : Plain "select " := by decide
  have source : Plain " from " := by decide
  have list : Plain ((selection.columns.map commaSeparated).getD "*") := by
    cases chosen : selection.columns with
    | none =>
        have star : Plain "*" := by decide
        exact star
    | some names => exact plain_commaSeparated (columns names chosen)
  exact ((select.append list).append source).append table

theorem divides_orderByText {terms : List OrderTerm} (plain : ∀ term ∈ terms, Plain term.column) :
    Divides (orderByText terms) := by
  have head : Divides " order by " := ⟨by decide, ' ', _, rfl, by decide⟩
  refine head.append_plain (plain_commaSeparated fun item member => ?_)
  obtain ⟨term, termMember, rfl⟩ := List.mem_map.mp member
  have blank : Plain " " := by decide
  have direction : Plain term.direction.symbol := by cases term.direction <;> decide
  exact ((plain term termMember).append blank).append direction

theorem divides_paging (kind : DialectKind) {ordering : String} (divides : Divides ordering)
    (page : Page) : Divides (kind.dialect.paging ordering page) := by
  have offset : Plain " offset " := by decide
  have limit : Plain " limit " := by decide
  have fetch : Plain " rows fetch next " := by decide
  have only : Plain " rows only" := by decide
  have comma : Plain ", " := by decide
  have first := plain_toString page.offset.toNat
  have count := plain_toString page.size.toNat
  have byFetch : Divides (offsetFetch ordering page) :=
    ((((divides.append_plain offset).append_plain first).append_plain fetch).append_plain
      count).append_plain only
  have byLimit : Divides (offsetLimit ordering page) :=
    (((divides.append_plain offset).append_plain first).append_plain limit).append_plain count
  have byPair : Divides (limitPair ordering page) :=
    (((divides.append_plain limit).append_plain first).append_plain comma).append_plain count
  cases kind with
  | sqlServer => exact byFetch
  | sqlServerCompact => exact byFetch
  | postgres => exact byLimit
  | mySql => exact byPair
  | sqlite => exact byPair

theorem Query.breaks_orderText (query : Query)
    (plain : ∀ term ∈ query.ordering, Plain term.column) :
    Plain query.orderText ∧ Breaks query.orderText.toList := by
  unfold Query.orderText
  split
  · have empty : Plain "" := by decide
    exact ⟨empty, by simp [Breaks]⟩
  · have divides := divides_orderByText plain
    exact ⟨divides.plain, by simpa using divides.breaks ""⟩

/-! ## What every call keeps -/

namespace Query

/-- The parameters that occur in the where clause. -/
def markedParameters (query : Query) : List String :=
  (query.whereClause.map WhereClause.parameters).getD []

/-- The parameters are numbered, each has its place in the where clause, and no name has
an at sign. -/
structure Sound (query : Query) : Prop where
  numbered : query.parameters.Numbered
  marked : ∀ name, query.parameters.names.count name = query.markedParameters.count name
  columns : ∀ clause, query.whereClause = some clause →
    ∀ condition ∈ clause.conditions, ∀ column ∈ condition.columns, Plain column
  selection : ∀ selection, query.selection = some selection → Plain selection.text
  ordering : ∀ term ∈ query.ordering, Plain term.column

variable {query : Query}

theorem sound_new (scope : Scope) : ({ scope } : Query).Sound where
  numbered := Parameters.numbered_empty
  marked _ := rfl
  columns := by simp
  selection := by simp
  ordering := by simp

theorem Sound.compiled (sound : query.Sound) {parameters : Parameters}
    {condition : Condition String} {clause : WhereClause}
    (numbered : parameters.Numbered)
    (counted : ∀ name, parameters.names.count name =
      query.parameters.names.count name + condition.parameters.count name)
    (plain : ∀ column ∈ condition.columns, Plain column)
    (parametersEq : clause.parameters = query.markedParameters ++ condition.parameters)
    (conditionsEq : ∀ other ∈ clause.conditions, other = condition ∨
      ∃ clause, query.whereClause = some clause ∧ other ∈ clause.conditions) :
    ({ query with parameters, whereClause := some clause } : Query).Sound where
  numbered := numbered
  marked name := by
    have before := sound.marked name
    simp only [counted, markedParameters, Option.map_some, Option.getD_some, parametersEq,
      List.count_append] at before ⊢
    omega
  columns := by
    rintro _ ⟨⟩ other member
    rcases conditionsEq other member with rfl | ⟨earlier, started, member⟩
    · exact plain
    · exact sound.columns earlier started other member
  selection := sound.selection
  ordering := sound.ordering

end Query

namespace QueryCall

variable {query : Query}

theorem ensures_compiling (sound : query.Sound) (predicate : Expression)
    (clause : Condition String → WhereClause)
    (parametersEq : ∀ condition, (clause condition).parameters =
      query.markedParameters ++ condition.parameters)
    (conditionsEq : ∀ condition, ∀ other ∈ (clause condition).conditions, other = condition ∨
      ∃ clause, query.whereClause = some clause ∧ other ∈ clause.conditions) :
    Ensures query.scope.AnswersPlain
      (compiling query predicate fun query condition =>
        { query with whereClause := some (clause condition) })
      fun result => result.2.scope = query.scope ∧ result.2.Sound := by
  refine (Scope.ensures_condition sound.numbered predicate).bind ?_
  rintro ⟨failure | condition, parameters⟩ ⟨numbered, compiled⟩
  · exact ensures_pure ⟨rfl, sound⟩
  · obtain ⟨counted, plain⟩ := compiled condition rfl
    exact ensures_pure ⟨rfl, sound.compiled numbered counted plain (parametersEq condition)
      (conditionsEq condition)⟩

/-- Every call keeps a query sound, whether it fails or not. -/
theorem ensures_perform (sound : query.Sound) (call : QueryCall) :
    Ensures query.scope.AnswersPlain (call.perform query)
      fun result => result.2.scope = query.scope ∧ result.2.Sound := by
  cases call with
  | startWhere predicate =>
      rw [perform_startWhere]
      cases started : query.whereClause with
      | some clause => exact ensures_pure ⟨rfl, sound⟩
      | none =>
          refine ensures_compiling sound predicate _ (fun condition => ?_)
            fun condition other member => .inl ?_
          · simp [Query.markedParameters, started, WhereClause.parameters]
          · simpa [WhereClause.conditions] using member
  | extendWhere connective predicate =>
      rw [perform_extendWhere]
      cases started : query.whereClause with
      | none => exact ensures_pure ⟨rfl, sound⟩
      | some clause =>
          refine ensures_compiling sound predicate _ (fun condition => ?_)
            fun condition other member => ?_
          · simp [Query.markedParameters, started, WhereClause.parameters, WhereClause.extend]
          · have places : other ∈ clause.conditions ∨ other = condition := by
              simpa [WhereClause.conditions, WhereClause.extend, or_assoc] using member
            exact places.elim (fun earlier => .inr ⟨clause, started, earlier⟩) .inl
  | orderBy direction names =>
      rw [perform_orderBy]
      refine (Scope.ensures_columnsNamed names).bind fun outcome plain => ?_
      cases outcome with
      | error failure => exact ensures_pure ⟨rfl, sound⟩
      | ok columns =>
          refine ensures_pure ⟨rfl, { sound with ordering := fun term member => ?_ }⟩
          rcases List.mem_append.mp member with earlier | added
          · exact sound.ordering term earlier
          · obtain ⟨column, columnMember, rfl⟩ := List.mem_map.mp added
            exact plain columns rfl column columnMember
  | onPage page =>
      rw [perform_onPage]
      exact ensures_pure ⟨rfl, { sound with }⟩
  | select names =>
      rw [perform_select]
      refine (Scope.ensures_columnsNamed names).bind fun outcome plain => ?_
      cases outcome with
      | error failure => exact ensures_pure ⟨rfl, sound⟩
      | ok columns =>
          refine Scope.ensures_table.bind fun table plainTable => ?_
          refine ensures_pure ⟨rfl, { sound with selection := ?_ }⟩
          rintro _ ⟨⟩
          exact plain_selection plainTable (by simpa using plain columns)
  | selectAll =>
      rw [perform_selectAll]
      refine Scope.ensures_table.bind fun table plainTable => ?_
      refine ensures_pure ⟨rfl, { sound with selection := ?_ }⟩
      rintro _ ⟨⟩
      exact plain_selection plainTable (by simp)

/-- So do calls made one after another. -/
theorem ensures_performAll (calls : List QueryCall) (sound : query.Sound) :
    Ensures query.scope.AnswersPlain (performAll calls query)
      fun result => result.2.scope = query.scope ∧ result.2.Sound := by
  induction calls generalizing query with
  | nil => exact ensures_pure ⟨rfl, sound⟩
  | cons call rest ih =>
      refine (ensures_perform sound call).bind ?_
      rintro ⟨reply, next⟩ ⟨scopeEq, soundNext⟩
      have ensuresRest := ih soundNext
      rw [scopeEq] at ensuresRest
      refine ensuresRest.bind ?_
      rintro ⟨replies, last⟩ kept
      exact ensures_pure kept

end QueryCall

namespace Query

variable {query : Query}

theorem isWord_nameAt (position : Nat) : IsWord (Parameters.nameAt position) := by
  intro c member
  rw [Parameters.nameAt, String.toList_append, List.mem_append] at member
  rcases member with letter | digit
  · have isLetter : c = 'p' := by simpa using letter
    subst isLetter
    decide
  · rw [Nat.toString_eq_ofList_toDigits, String.toList_ofList] at digit
    have isDigit := Nat.isDigit_of_mem_toDigits (by decide) (by decide) digit
    simp [isWordChar, Char.isAlphanum, isDigit]

theorem Sound.words (sound : query.Sound) : ∀ name ∈ query.markedParameters, IsWord name := by
  intro name member
  have counted := sound.marked name
  have occurs : name ∈ query.parameters.names := by
    rw [← List.count_pos_iff] at member ⊢
    omega
  rw [sound.numbered] at occurs
  obtain ⟨position, -, rfl⟩ := List.mem_map.mp occurs
  exact isWord_nameAt position

theorem Sound.marks_whereText (sound : query.Sound) {kind : DialectKind}
    (inDialect : query.scope.dialect = kind.dialect) :
    Marks query.whereText query.markedParameters := by
  have words := sound.words
  cases started : query.whereClause with
  | none =>
      have empty : Plain "" := by decide
      simpa [whereText, markedParameters, started] using empty.marks
  | some clause =>
      have text := @WhereClause.marks_text kind clause fun condition member =>
        ⟨fun name occurs => words name ?_, sound.columns clause started condition member⟩
      · simpa [whereText, markedParameters, started, inDialect] using text
      · have inClause : name ∈ clause.parameters := by
          rcases List.mem_cons.mp member with rfl | member
          · exact List.mem_append_left _ occurs
          · obtain ⟨link, linkMember, rfl⟩ := List.mem_map.mp member
            exact List.mem_append_right _ (List.mem_flatMap.mpr ⟨link, linkMember, occurs⟩)
        simpa [markedParameters, started] using inClause

theorem Sound.ensures_orderOrKeys (sound : query.Sound) :
    Ensures query.scope.AnswersPlain query.orderOrKeys.run
      fun outcome => ∀ text, outcome = .ok text → Divides text := by
  unfold orderOrKeys orderText
  split
  · refine Attempt.ensures_bind Scope.ensures_keyColumns (fun columns plain => ?_) (by simp)
    refine ensures_pure ?_
    rintro _ ⟨⟩
    refine divides_orderByText fun term member => ?_
    obtain ⟨column, columnMember, rfl⟩ := List.mem_map.mp member
    exact plain columns rfl column columnMember
  · refine ensures_pure ?_
    rintro _ ⟨⟩
    exact divides_orderByText sound.ordering

theorem Sound.ensures_tailText (sound : query.Sound) {kind : DialectKind}
    (inDialect : query.scope.dialect = kind.dialect) :
    Ensures query.scope.AnswersPlain query.tailText.run
      fun outcome => ∀ text, outcome = .ok text → Plain text ∧ Breaks text.toList := by
  unfold tailText
  split
  · refine ensures_pure ?_
    rintro _ ⟨⟩
    exact query.breaks_orderText sound.ordering
  · next page _ =>
      refine Attempt.ensures_bind sound.ensures_orderOrKeys (fun ordering divides => ?_) (by simp)
      refine ensures_pure ?_
      rintro _ ⟨⟩
      have paging := divides_paging kind (divides ordering rfl) page
      rw [inDialect]
      exact ⟨paging.plain, by simpa using paging.breaks ""⟩

/-- The text of a sound query has the markers of its where clause. -/
theorem Sound.ensures_render (sound : query.Sound) {kind : DialectKind}
    (inDialect : query.scope.dialect = kind.dialect) :
    Ensures query.scope.AnswersPlain query.render.run
      fun outcome => ∀ text, outcome = .ok text → Marks text query.markedParameters := by
  have selection : Plain ((query.selection.map Selection.text).getD "") := by
    cases selected : query.selection with
    | none =>
        have empty : Plain "" := by decide
        exact empty
    | some selection => exact sound.selection selection selected
  refine Attempt.ensures_bind (sound.ensures_tailText inDialect) (fun tail ends => ?_) (by simp)
  obtain ⟨plainTail, breaksTail⟩ := ends tail rfl
  have emitted (event : Event) : Ensures query.scope.AnswersPlain
      (liftM (emit event) : Attempt Unit).run fun _ => True :=
    Attempt.ensures_lift (ensures_emit Scope.AnswersPlain.record event)
  refine Attempt.ensures_bind (emitted _) (fun _ _ => ?_) (by simp)
  refine ensures_pure ?_
  rintro _ ⟨⟩
  have body := selection.append_marks (sound.marks_whereText inDialect)
  exact body.append_plain breaksTail plainTail

end Query

/-- Whatever calls are made on a new query, its parameters are named in the order in which
they were bound, each name finds its value, and a text of the query has the marker of each
parameter once and no other marker. -/
theorem QueryCall.markers_perm_names (kind : DialectKind) (catalog : Catalog) (entity : Entity)
    (calls : List QueryCall) {memory : Memory}
    (plain : Scope.AnswersPlain ⟨catalog, entity, kind.dialect⟩ memory) :
    ∃ replies query after,
      (performAll calls (Scope.query ⟨catalog, entity, kind.dialect⟩)).run memory =
        ((replies, query), after) ∧
      query.parameters.names = (List.range query.parameters.size).map Parameters.nameAt ∧
      (∀ position, query.parameters.get? (Parameters.nameAt position) =
        query.parameters.values[position]?) ∧
      ∀ text last, query.render.run.run after = (.ok text, last) →
        (markers text).Perm query.parameters.names ∧ (markers text).Nodup := by
  have ensures := ensures_performAll calls (Query.sound_new ⟨catalog, entity, kind.dialect⟩)
  obtain ⟨⟨scopeEq, sound⟩, plainAfter⟩ := ensures memory plain
  refine ⟨_, _, _, rfl, sound.numbered, sound.numbered.get?_nameAt,
    fun text last rendered => ?_⟩
  have inDialect := congrArg Scope.dialect scopeEq
  obtain ⟨marks, -⟩ := sound.ensures_render inDialect _ (scopeEq ▸ plainAfter)
  have read := (marks text (congrArg Prod.fst rendered)).markers
  have perm := List.perm_iff_count.mpr fun name => (sound.marked name).symm
  rw [read]
  refine ⟨perm, perm.nodup_iff.mpr ?_⟩
  rw [sound.numbered]
  have differ (first second : Nat) (differs : first ≠ second) :
      Parameters.nameAt first ≠ Parameters.nameAt second :=
    fun namesEq => differs (Parameters.nameAt_injective namesEq)
  exact List.Pairwise.map Parameters.nameAt differ List.nodup_range

/-- Two conditions with a failing one between them, on a page in key order. -/
theorem QueryCall.markers_perm_names_of_page :
    let person : Entity :=
      { name := "Person"
        path := "tests::Person"
        properties := [⟨"Id", .int, false, true, true, true, false, none, none⟩,
          ⟨"Age", .int, false, true, false, false, false, none, none⟩] }
    let age : Expression := .column ⟨"Age", .int⟩
    let scope : Scope := ⟨⟨Conventions.usual true, true⟩, person, DialectKind.mySql.dialect⟩
    let calls : List QueryCall :=
      [.startWhere (.call .contains (.constant (.list [.int 18, .int 21])) [age]),
        .extendWhere .and (.binary (.connect .or)
          (.binary (.compare .equal) age (.constant (.scalar (.int 7))))
          (.constant (.scalar (.int 1)))),
        .extendWhere .or (.binary (.compare .less) (.constant (.scalar (.int 65))) age),
        .onPage ⟨2, 10⟩]
    let reached := (performAll calls scope.query).run {}
    let query := reached.1.2
    let text := " where (`Age` in (@p1, @p2)) or (@p3 < `Age`) order by `Id` asc limit 10, 10"
    scope.AnswersPlain {} ∧
      reached.1.1[1]? =
        some (.error (.unsupportedExpression (.notACondition (.scalar (.int 1))))) ∧
      query.parameters.names = ["p1", "p2", "p3"] ∧
      query.parameters.values = [.int 18, .int 21, .int 65] ∧
      query.parameters.get? "p2" = some (.int 21) ∧
      (query.render.run.run reached.2).1 = .ok text ∧
      (markers text).Perm ["p1", "p2", "p3"] ∧ (markers text).Nodup := by
  intro person age scope calls reached query text
  have plain : scope.AnswersPlain {} := by
    refine ⟨by decide, by decide, ?_⟩
    rintro keys ⟨⟩
    decide
  obtain ⟨replies, own, after, ran, numbered, found, marked⟩ :=
    markers_perm_names .mySql ⟨Conventions.usual true, true⟩ person calls plain
  obtain rfl : query = own := congrArg (·.1.2) ran
  obtain rfl : reached.2 = after := congrArg Prod.snd ran
  have count : query.parameters.size = 3 := rfl
  have values : query.parameters.values = [.int 18, .int 21, .int 65] := rfl
  have names : query.parameters.names = ["p1", "p2", "p3"] := by
    rw [numbered, count]
    decide +kernel
  have rendered : (query.render.run.run reached.2).1 = .ok text :=
    toOption_eq_some_iff.mp (by decide +kernel)
  have second : query.parameters.get? "p2" = some (.int 21) := by
    have name : Parameters.nameAt 1 = "p2" := by decide +kernel
    rw [← name, found, values]
    rfl
  have whole : query.render.run.run reached.2 = (.ok text, (query.render.run.run reached.2).2) := by
    rw [← rendered, Prod.eta]
  have marks := marked text _ whole
  rw [names] at marks
  exact ⟨plain, rfl, names, values, second, rendered, marks⟩

end EntitySql
