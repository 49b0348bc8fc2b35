import EntitySql.Registry.Basic

/-!
# The dialect of a connection

A dialect is registered by the name of a connection type, and found by that name
whatever its case.  Later registrations stand before earlier ones, all of them before
the built-in ones, and the default dialect is left for names without any.
-/

namespace EntitySql

open EntitySql.Text

theorem equalIgnoringCase_iff {left right : String} :
    equalIgnoringCase left right = true ↔ left.toLower = right.toLower := by
  rw [equalIgnoringCase, beq_iff_eq]

/-- Names are equal up to case when they are so letter by letter. -/
theorem equalIgnoringCase_iff_toList {left right : String} :
    equalIgnoringCase left right = true ↔
      left.toList.map Char.toLower = right.toList.map Char.toLower := by
  have spelled (name : String) : name.toLower.toList = name.toList.map Char.toLower :=
    String.toList_map
  rw [equalIgnoringCase_iff, ← String.toList_inj, spelled, spelled]

/-- The registration is made under the name. -/
def Registration.goesBy (connection : String) (registration : Registration) : Bool :=
  equalIgnoringCase registration.connection connection

/-- The product is known by the name from the start. -/
def DialectKind.goesBy (connection : String) (kind : DialectKind) : Bool :=
  kind.connectionNames.any (equalIgnoringCase · connection)

section Names

variable {connection other : String}

theorem Registration.goesBy_congr (same : equalIgnoringCase connection other = true) :
    goesBy connection = goesBy other := by
  funext registration
  simp only [goesBy, equalIgnoringCase, equalIgnoringCase_iff.mp same]

theorem DialectKind.goesBy_congr (same : equalIgnoringCase connection other = true) :
    goesBy connection = goesBy other := by
  funext kind
  simp only [goesBy, equalIgnoringCase, equalIgnoringCase_iff.mp same]

/-- A name stands for one of two registrations at most if theirs differ. -/
theorem Registration.not_goesBy_of_apart {first second : Registration}
    (apart : equalIgnoringCase first.connection second.connection = false)
    (found : first.goesBy connection = true) : second.goesBy connection = false := by
  cases found' : second.goesBy connection with
  | false => rfl
  | true =>
      have same : first.connection.toLower = second.connection.toLower :=
        (equalIgnoringCase_iff.mp found).trans (equalIgnoringCase_iff.mp found').symm
      rw [equalIgnoringCase_iff.mpr same] at apart
      cases apart

end Names

/-- Registrations are found by the names under which they were made. -/
theorem lookup_map_toLower (registrations : List Registration) (connection : String) :
    (registrations.map fun registration =>
        (registration.connection.toLower, registration.dialect)).lookup connection.toLower =
      (registrations.find? (·.goesBy connection)).map (·.dialect) := by
  induction registrations with
  | nil => rfl
  | cons registration rest ih =>
      rw [List.map_cons, List.lookup_cons, List.find?_cons, ih]
      cases found : registration.goesBy connection with
      | true =>
          have same := equalIgnoringCase_iff.mp found
          simp [same]
      | false =>
          have differs : ¬registration.connection.toLower = connection.toLower := fun same => by
            have impossible := equalIgnoringCase_iff.mpr same
            rw [Registration.goesBy] at found
            rw [found] at impossible
            cases impossible
          simp [beq_eq_false_iff_ne.mpr (Ne.symm differs)]

/-- The dialect that a name has from the start. -/
def builtInDialect? (connection : String) : Option Dialect :=
  (builtInRegistrations.reverse.find? (·.goesBy connection)).map (·.dialect)

/-- Where no two registrations share a name, each of them is found by its own. -/
theorem find?_goesBy_of_pairwise {registrations : List Registration}
    (apart : registrations.Pairwise fun first second =>
      equalIgnoringCase first.connection second.connection = false)
    {registration : Registration} (member : registration ∈ registrations) {connection : String}
    (found : registration.goesBy connection = true) :
    registrations.find? (·.goesBy connection) = some registration := by
  induction registrations with
  | nil => cases member
  | cons first rest ih =>
      obtain ⟨apartFirst, apartRest⟩ := List.pairwise_cons.mp apart
      rcases List.mem_cons.mp member with rfl | inRest
      · exact List.find?_cons_of_pos found
      · have skips : ¬first.goesBy connection = true := fun foundFirst => by
          rw [Registration.not_goesBy_of_apart (apartFirst _ inRest) foundFirst] at found
          cases found
        rw [List.find?_cons_of_neg skips]
        exact ih apartRest inRest

/-- No two products are known by one name from the start. -/
theorem builtInRegistrations_apart : builtInRegistrations.reverse.Pairwise fun first second =>
    equalIgnoringCase first.connection second.connection = false := by
  decide +kernel

theorem builtInDialect?_of_goesBy {kind : DialectKind} {connection : String}
    (known : kind.goesBy connection = true) :
    builtInDialect? connection = some kind.dialect := by
  obtain ⟨name, isName, same⟩ := List.any_eq_true.mp known
  have member : (⟨name, kind.dialect⟩ : Registration) ∈ builtInRegistrations.reverse := by
    rw [List.mem_reverse]
    refine List.mem_flatMap.mpr ⟨kind, ?_, List.mem_map_of_mem isName⟩
    cases kind <;> decide
  rw [builtInDialect?, find?_goesBy_of_pairwise builtInRegistrations_apart member same,
    Option.map_some]

theorem builtInDialect?_of_not_goesBy {connection : String}
    (unknown : ∀ kind : DialectKind, kind.goesBy connection = false) :
    builtInDialect? connection = none := by
  have notFound : builtInRegistrations.reverse.find? (·.goesBy connection) = none := by
    rw [List.find?_eq_none]
    intro registration member found
    obtain ⟨kind, -, isOfKind⟩ := List.mem_flatMap.mp (List.mem_reverse.mp member)
    obtain ⟨name, isName, rfl⟩ := List.mem_map.mp isOfKind
    have known : kind.goesBy connection = true := List.any_eq_true.mpr ⟨name, isName, found⟩
    rw [unknown kind] at known
    cases known
  rw [builtInDialect?, notFound, Option.map_none]

namespace RegistryDraft

/-- The registrations are searched from the last one to the first. -/
theorem dialectFor_registry (draft : RegistryDraft) (connection : String) :
    draft.registry.dialectFor connection =
      (((draft.registrations.reverse.find? (·.goesBy connection)).map (·.dialect)).or
        (builtInDialect? connection)).getD draft.settings.defaultDialect.dialect := by
  rw [Registry.dialectFor, Registry.registered?, registry, lookup_map_toLower,
    List.reverse_append, List.find?_append, Option.map_or]
  rfl

/-- The last registration under a name is the one that is found. -/
theorem find?_reverse_of_last {before after : List Registration} {last : Registration}
    {connection : String} (found : last.goesBy connection = true)
    (isLast : ∀ later ∈ after, later.goesBy connection = false) :
    (before ++ last :: after).reverse.find? (·.goesBy connection) = some last := by
  have skipped : after.reverse.find? (·.goesBy connection) = none := by
    rw [List.find?_eq_none]
    intro later member
    simp [isLast later (List.mem_reverse.mp member)]
  rw [List.reverse_append, List.reverse_cons, List.append_assoc, List.find?_append, skipped,
    Option.none_or, List.singleton_append]
  exact List.find?_cons_of_pos found

theorem find?_reverse_of_none {registrations : List Registration} {connection : String}
    (unregistered : ∀ registration ∈ registrations, registration.goesBy connection = false) :
    registrations.reverse.find? (·.goesBy connection) = none := by
  rw [List.find?_eq_none]
  intro registration member
  simp [unregistered registration (List.mem_reverse.mp member)]

/-- Two registrations under different names can be made in either order. -/
theorem find?_reverse_swap (before after : List Registration) {first second : Registration}
    (apart : equalIgnoringCase first.connection second.connection = false)
    (connection : String) :
    (before ++ second :: first :: after).reverse.find? (·.goesBy connection) =
      (before ++ first :: second :: after).reverse.find? (·.goesBy connection) := by
  have swapped : [first, second].find? (·.goesBy connection) =
      [second, first].find? (·.goesBy connection) := by
    cases found : first.goesBy connection with
    | true => simp [found, Registration.not_goesBy_of_apart apart found]
    | false => cases found' : second.goesBy connection <;> simp [found, found']
  have reversed (one other : Registration) : (before ++ one :: other :: after).reverse =
      after.reverse ++ ([other, one] ++ before.reverse) := by simp
  rw [reversed, reversed, List.find?_append, List.find?_append, List.find?_append,
    List.find?_append, swapped]

end RegistryDraft

/-- A connection has the dialect registered last under its name, or else the built-in one
that goes by the name, or else the default one.  So the case of letters does not matter, nor
the order of registrations under different names, nor the settings where there is a name. -/
theorem RegistryDraft.dialectFor_last_or_builtIn_or_default (draft : RegistryDraft)
    (connection : String) :
    (∀ before last after, draft.registrations = before ++ last :: after →
      last.goesBy connection = true → (∀ later ∈ after, later.goesBy connection = false) →
        draft.registry.dialectFor connection = last.dialect) ∧
    ((∀ registration ∈ draft.registrations, registration.goesBy connection = false) →
      (∀ kind : DialectKind, kind.goesBy connection = true →
        draft.registry.dialectFor connection = kind.dialect) ∧
      ((∀ kind : DialectKind, kind.goesBy connection = false) →
        draft.registry.dialectFor connection = draft.settings.defaultDialect.dialect)) ∧
    (∀ other, equalIgnoringCase connection other = true →
      draft.registry.dialectFor other = draft.registry.dialectFor connection) ∧
    (∀ before first second after, draft.registrations = before ++ first :: second :: after →
      equalIgnoringCase first.connection second.connection = false →
        { draft with registrations := before ++ second :: first :: after }.registry.dialectFor
          connection = draft.registry.dialectFor connection) ∧
    (∀ settings, (∃ registration ∈ draft.registrations,
        registration.goesBy connection = true) ∨
      (∃ kind : DialectKind, kind.goesBy connection = true) →
        { draft with settings }.registry.dialectFor connection =
          draft.registry.dialectFor connection) := by
  simp only [dialectFor_registry]
  refine ⟨?_, ?_, ?_, ?_, ?_⟩
  · intro before last after isRegistrations found isLast
    rw [isRegistrations, find?_reverse_of_last found isLast]
    rfl
  · intro unregistered
    rw [find?_reverse_of_none unregistered, Option.map_none, Option.none_or]
    refine ⟨fun kind known => ?_, fun unknown => ?_⟩
    · rw [builtInDialect?_of_goesBy known, Option.getD_some]
    · rw [builtInDialect?_of_not_goesBy unknown, Option.getD_none]
  · intro other same
    rw [builtInDialect?, builtInDialect?, Registration.goesBy_congr same]
  · intro before first second after isRegistrations apart
    rw [isRegistrations, find?_reverse_swap before after apart]
  · intro settings named
    have answered : (((draft.registrations.reverse.find? (·.goesBy connection)).map
        (·.dialect)).or (builtInDialect? connection)).isSome = true := by
      rcases named with ⟨registration, member, found⟩ | ⟨kind, known⟩
      · have isFound : (draft.registrations.reverse.find? (·.goesBy connection)).isSome = true :=
          List.find?_isSome.mpr ⟨registration, List.mem_reverse.mpr member, found⟩
        simp [isFound]
      · simp [builtInDialect?_of_goesBy known]
    obtain ⟨dialect, isAnswer⟩ := Option.isSome_iff_exists.mp answered
    rw [isAnswer, Option.getD_some, Option.getD_some]

/-- A name registered twice, and a built-in name that nobody registered. -/
theorem RegistryDraft.dialectFor_last_or_builtIn_or_default_of_spellings :
    let draft : RegistryDraft :=
      { registrations := [⟨"PgPool", DialectKind.sqlite.dialect⟩,
          ⟨"PGPOOL", DialectKind.mySql.dialect⟩] }
    draft.registry.dialectFor "pgPool" = DialectKind.mySql.dialect ∧
    draft.registry.dialectFor "SqlitePool" = DialectKind.sqlite.dialect := by
  have same : equalIgnoringCase "PGPOOL" "pgPool" = true :=
    equalIgnoringCase_iff_toList.mpr (by decide)
  have known : DialectKind.sqlite.goesBy "SqlitePool" = true :=
    List.any_eq_true.mpr ⟨"sqlitepool", by decide, equalIgnoringCase_iff_toList.mpr (by decide)⟩
  have differs : equalIgnoringCase "PgPool" "SqlitePool" = false ∧
      equalIgnoringCase "PGPOOL" "SqlitePool" = false := by
    simp only [← Bool.not_eq_true, equalIgnoringCase_iff_toList]
    decide
  intro draft
  obtain ⟨last, -⟩ := dialectFor_last_or_builtIn_or_default draft "pgPool"
  obtain ⟨-, builtIn, -⟩ := dialectFor_last_or_builtIn_or_default draft "SqlitePool"
  refine ⟨?_, ?_⟩
  · exact last [⟨"PgPool", DialectKind.sqlite.dialect⟩] _ [] rfl same (by simp)
  · exact (builtIn (by simp [draft, Registration.goesBy, differs])).1 .sqlite known

end EntitySql
