import EntitySql.Proofs.Registration
import EntitySql.Registry.TypeName
import Mathlib.Data.List.TakeWhile

/-!
# The dialect of a connection type

Of the path of a type only the last segment is used, whatever modules come before it.  A generic
type is known by the last segment of its first argument as well, at whatever depth that is applied
to arguments of its own.
-/

namespace EntitySql

open EntitySql.Text

section Separator

variable {name : List Char}

theorem afterLastPathSeparator_go_of_notMem (best : List Char) (plain : ':' ∉ name) :
    afterLastPathSeparator.go best name = best := by
  induction name with
  | nil => rfl
  | cons c rest ih =>
      rw [afterLastPathSeparator.go]
      · exact ih (List.not_mem_of_not_mem_cons plain)
      · rintro _ rfl
        exact absurd List.mem_cons_self plain

/-- Whatever the first character is, the search goes on behind it. -/
theorem exists_afterLastPathSeparator_go (best : List Char) (c : Char) (rest : List Char) :
    ∃ better, afterLastPathSeparator.go best (c :: rest) =
      afterLastPathSeparator.go better rest := by
  by_cases separates : ∃ tail, c = ':' ∧ rest = ':' :: tail
  · obtain ⟨tail, rfl, rfl⟩ := separates
    exact ⟨tail, by rw [afterLastPathSeparator.go]⟩
  · refine ⟨best, ?_⟩
    rw [afterLastPathSeparator.go]
    exact fun tail isColon goesOn => separates ⟨tail, isColon, goesOn⟩

theorem afterLastPathSeparator_go_separator (best before : List Char) (plain : ':' ∉ name) :
    afterLastPathSeparator.go best (before ++ ':' :: ':' :: name) = name := by
  induction before generalizing best with
  | nil =>
      rw [List.nil_append, afterLastPathSeparator.go, afterLastPathSeparator.go]
      · exact afterLastPathSeparator_go_of_notMem name plain
      · rintro tail - rfl
        exact plain List.mem_cons_self
  | cons c before ih =>
      obtain ⟨better, goesOn⟩ :=
        exists_afterLastPathSeparator_go best c (before ++ ':' :: ':' :: name)
      rw [List.cons_append, goesOn, ih]

end Separator

theorem trimBlanks_of_forall_not_blank {text : List Char}
    (noBlanks : ∀ c ∈ text, isBlank c = false) : trimBlanks text = text := by
  have kept (part : List Char) (subset : part ⊆ text) : part.dropWhile isBlank = part := by
    rw [List.dropWhile_eq_self_iff]
    intro notEmpty
    simpa using noBlanks _ (subset (List.get_mem part ⟨0, notEmpty⟩))
  rw [trimBlanks, kept text (List.Subset.refl text), kept text.reverse (by simp),
    List.reverse_reverse]

namespace TypePath

variable (path : TypePath)

theorem toList_text : path.text.toList =
    path.modules.flatMap (fun outer => outer.toList ++ [':', ':']) ++ path.name.toList := by
  unfold text
  induction path.modules with
  | nil => simp
  | cons outer modules ih => simp [ih]

theorem isIdentifierCharacter_of_mem {segment : String}
    (isSegment : segment ∈ path.name :: path.modules) {c : Char} (among : c ∈ segment.toList) :
    isIdentifierCharacter c = true := by
  have ofSegment := List.all_eq_true.mp path.areSegments segment isSegment
  rw [isPathSegment, Bool.and_eq_true] at ofSegment
  exact List.all_eq_true.mp ofSegment.2 c among

theorem name_ne_empty : path.name ≠ "" := by
  have ofName := List.all_eq_true.mp path.areSegments path.name List.mem_cons_self
  rw [isPathSegment, Bool.and_eq_true] at ofName
  simpa using ofName.1

theorem colon_notMem_name : ':' ∉ path.name.toList := by
  intro among
  have impossible := path.isIdentifierCharacter_of_mem List.mem_cons_self among
  revert impossible
  decide

/-- A path has no other signs than those between its segments. -/
theorem eq_colon_or_of_mem_text {c : Char} (among : c ∈ path.text.toList) :
    c = ':' ∨ isIdentifierCharacter c = true := by
  rw [toList_text, List.mem_append, List.mem_flatMap] at among
  rcases among with ⟨outer, isModule, among⟩ | among
  · rcases List.mem_append.mp among with ofModule | separates
    · exact .inr (path.isIdentifierCharacter_of_mem (List.mem_cons_of_mem _ isModule) ofModule)
    · exact .inl (by simpa using separates)
  · exact .inr (path.isIdentifierCharacter_of_mem List.mem_cons_self among)

theorem ne_of_mem_text {c : Char} (among : c ∈ path.text.toList) :
    c ≠ '<' ∧ c ≠ '>' ∧ c ≠ ',' ∧ isBlank c = false := by
  rcases path.eq_colon_or_of_mem_text among with rfl | isIdentifier
  · decide
  · simp only [isIdentifierCharacter, Bool.not_eq_true', Bool.or_eq_false_iff,
      List.contains_eq_mem, decide_eq_false_iff_not, List.mem_cons, not_or] at isIdentifier
    obtain ⟨notBlank, notOpening, notClosing, notComma, -⟩ := isIdentifier
    exact ⟨notOpening, notClosing, notComma, notBlank⟩

theorem afterLastPathSeparator_text :
    afterLastPathSeparator path.text.toList = path.name.toList := by
  rw [toList_text]
  rcases path.modules.eq_nil_or_concat with isNil | ⟨outside, last, isConcat⟩
  · rw [isNil, List.flatMap_nil, List.nil_append]
    exact afterLastPathSeparator_go_of_notMem _ path.colon_notMem_name
  · rw [isConcat, List.concat_eq_append, List.flatMap_append, List.flatMap_singleton,
      ← List.append_assoc, List.append_assoc]
    exact afterLastPathSeparator_go_separator _ _ path.colon_notMem_name

/-- Arguments in angle brackets do not belong to the last segment. -/
theorem lastTypeSegment_append {rest : List Char} (ends : rest.takeWhile (· ≠ '<') = []) :
    lastTypeSegment (path.text.toList ++ rest) = path.name.toList := by
  have base : (path.text.toList ++ rest).takeWhile (· ≠ '<') = path.text.toList := by
    rw [List.takeWhile_append_of_pos fun c among => decide_eq_true (path.ne_of_mem_text among).1,
      ends, List.append_nil]
  rw [lastTypeSegment, base,
    trimBlanks_of_forall_not_blank fun c among => (path.ne_of_mem_text among).2.2.2,
    afterLastPathSeparator_text]

/-- The first argument of a path goes as far as nothing in it ends an argument. -/
theorem firstTypeArgument?_append (rest : List Char) :
    firstTypeArgument? (path.text.toList ++ '<' :: rest) =
      some (rest.takeWhile fun c => c ≠ ',' && c ≠ '>') := by
  rw [firstTypeArgument?,
    List.dropWhile_append_of_pos fun c among => decide_eq_true (path.ne_of_mem_text among).1]
  rfl

theorem connectionNames_text : connectionNames path.text = [path.name] := by
  have base := path.lastTypeSegment_append List.takeWhile_nil
  have noArgument : firstTypeArgument? path.text.toList = none := by
    have noBracket : path.text.toList.dropWhile (· ≠ '<') = [] :=
      List.dropWhile_eq_nil_iff.mpr fun c among => decide_eq_true (path.ne_of_mem_text among).1
    rw [firstTypeArgument?, noBracket]
  rw [List.append_nil] at base
  rw [connectionNames, noArgument, base, Option.map_none, String.ofList_toList]

end TypePath

namespace TypeName

variable {path argument : TypePath} {type first : TypeName}

theorem exists_toList_text (isPath : type.path? = some path) :
    ∃ arguments, type.text.toList = path.text.toList ++ arguments ∧
      ∀ c ∈ arguments.head?, c = '<' := by
  cases type with
  | plain own =>
      cases isPath
      exact ⟨[], by simp [text], by simp⟩
  | applied own first further =>
      cases isPath
      exact ⟨'<' :: (first.text ++ further.elim "" ("," ++ ·) ++ ">").toList, by simp [text],
        by simp⟩
  | other text => cases isPath

/-- The first argument is cut where one of its own begins, where the next one begins, or where
the arguments end, and its path always ends before that. -/
theorem lastTypeSegment_firstTypeArgument? (further : Option String)
    (isPath : first.path? = some argument) :
    (firstTypeArgument? (applied path first further).text.toList).map lastTypeSegment =
      some argument.name.toList := by
  obtain ⟨arguments, isText, opens⟩ := exists_toList_text isPath
  let rest := arguments ++ ((further.elim "" ("," ++ ·)).toList ++ ['>'])
  have split : (applied path first further).text.toList =
      path.text.toList ++ '<' :: (argument.text.toList ++ rest) := by
    simp [text, isText, rest]
  have ends : (rest.takeWhile fun c => c ≠ ',' && c ≠ '>').takeWhile (· ≠ '<') = [] := by
    cases arguments with
    | nil => cases further <;> simp [rest]
    | cons c arguments =>
        obtain rfl : c = '<' := opens c rfl
        simp [rest]
  rw [split, path.firstTypeArgument?_append, List.takeWhile_append_of_pos, Option.map_some,
    argument.lastTypeSegment_append ends]
  intro c among
  simp [argument.ne_of_mem_text among]

theorem connectionNames_text (path : TypePath) (further : Option String)
    (isPath : first.path? = some argument) :
    connectionNames (applied path first further).text =
      [argument.name ++ path.name, path.name] := by
  have base : lastTypeSegment (applied path first further).text.toList = path.name.toList := by
    have split : (applied path first further).text.toList = path.text.toList ++
        '<' :: (first.text ++ further.elim "" ("," ++ ·) ++ ">").toList := by simp [text]
    rw [split, path.lastTypeSegment_append (by simp)]
  have notEmpty : argument.name.toList ≠ [] := fun isNil =>
    argument.name_ne_empty (String.toList_eq_nil_iff.mp isNil)
  obtain ⟨c, rest, isCons⟩ := List.exists_cons_of_ne_nil notEmpty
  rw [connectionNames, lastTypeSegment_firstTypeArgument? further isPath, base, isCons]
  change [String.ofList (c :: rest ++ path.name.toList), String.ofList path.name.toList] = _
  rw [← isCons, String.ofList_append, String.ofList_toList, String.ofList_toList]

end TypeName

namespace RegistryDraft

/-- The dialect registered last under a name, the built-in ones counting as the first. -/
def registeredAs? (draft : RegistryDraft) (connection : String) : Option Dialect :=
  ((builtInRegistrations ++ draft.registrations).reverse.find? (·.goesBy connection)).map
    (·.dialect)

variable (draft : RegistryDraft)

theorem registered?_registry (connection : String) :
    draft.registry.registered? connection = draft.registeredAs? connection :=
  lookup_map_toLower _ connection

theorem dialectFor_eq_getD (connection : String) :
    draft.registry.dialectFor connection =
      (draft.registeredAs? connection).getD draft.settings.defaultDialect.dialect := by
  rw [Registry.dialectFor, registered?_registry]
  rfl

/-- The names of a connection type are tried one after the other. -/
theorem dialectForType_eq_getD (type : String) :
    draft.registry.dialectForType type =
      ((connectionNames type).findSome? draft.registeredAs?).getD
        draft.settings.defaultDialect.dialect := by
  rw [Registry.dialectForType, funext draft.registered?_registry]
  rfl

end RegistryDraft

/-- A connection type has the last segment of its path for a name, and behind that of its first
argument, if it has one with a path, another name that is tried first.  A dialect is looked up
under these names like under any other. -/
theorem TypePath.connection_named_by_last_segments (path : TypePath) :
    connectionNames path.text = [path.name] ∧
    (∀ first further argument, first.path? = some argument →
      connectionNames (TypeName.applied path first further).text =
        [argument.name ++ path.name, path.name]) ∧
    ∀ draft : RegistryDraft,
      draft.registry.dialectForType path.text = draft.registry.dialectFor path.name ∧
      draft.registry.dialectFor path.name =
        (draft.registeredAs? path.name).getD draft.settings.defaultDialect.dialect ∧
      ∀ first further argument, first.path? = some argument →
        draft.registry.dialectForType (TypeName.applied path first further).text =
          ((draft.registeredAs? (argument.name ++ path.name)).or
            (draft.registeredAs? path.name)).getD draft.settings.defaultDialect.dialect := by
  have names {first : TypeName} {argument : TypePath} (further : Option String)
      (isPath : first.path? = some argument) :=
    TypeName.connectionNames_text path further isPath
  refine ⟨path.connectionNames_text, fun _ further _ isPath => names further isPath,
    fun draft => ⟨?_, draft.dialectFor_eq_getD path.name, ?_⟩⟩
  · rw [draft.dialectForType_eq_getD, draft.dialectFor_eq_getD, path.connectionNames_text,
      List.findSome?_singleton]
  · intro first further argument isPath
    rw [draft.dialectForType_eq_getD, names further isPath, List.findSome?_cons,
      List.findSome?_singleton]
    cases draft.registeredAs? (argument.name ++ path.name) <;> rfl

/-- A pool of connections whose database is itself applied to arguments, registered in capitals. -/
theorem TypePath.connection_named_by_last_segments_of_pool :
    let type := "sqlx::pool::Pool<db::Postgres<net::Tls<rt::Tokio>, u8>, (String, char)>"
    let draft : RegistryDraft :=
      { registrations := [⟨"POSTGRESPOOL", DialectKind.sqlite.dialect⟩] }
    connectionNames type = ["PostgresPool", "Pool"] ∧
      draft.registry.dialectForType type = DialectKind.sqlite.dialect := by
  intro type draft
  let pool : TypePath := ⟨["sqlx", "pool"], "Pool", by decide⟩
  let postgres : TypePath := ⟨["db"], "Postgres", by decide⟩
  let tls : TypePath := ⟨["net"], "Tls", by decide⟩
  let tokio : TypePath := ⟨["rt"], "Tokio", by decide⟩
  let database : TypeName := .applied postgres (.applied tls (.plain tokio) none) (some " u8")
  have isType : type = (TypeName.applied pool database (some " (String, char)")).text := by
    decide +kernel
  obtain ⟨-, names, dialects⟩ := pool.connection_named_by_last_segments
  have joined : postgres.name ++ pool.name = "PostgresPool" := by decide
  have found : draft.registeredAs? "PostgresPool" = some DialectKind.sqlite.dialect := by
    let last : Registration := ⟨"POSTGRESPOOL", DialectKind.sqlite.dialect⟩
    have same : last.goesBy "PostgresPool" = true :=
      equalIgnoringCase_iff_toList.mpr (by decide)
    exact congrArg (Option.map Registration.dialect)
      (RegistryDraft.find?_reverse_of_last same (by simp))
  rw [isType]
  refine ⟨joined ▸ names database _ postgres rfl, ?_⟩
  rw [(dialects draft).2.2 database _ postgres rfl, joined, found]
  rfl

end EntitySql
