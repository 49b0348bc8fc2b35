import EntitySql.Proofs.Memory.Ensures
import EntitySql.Proofs.Memory.Recall

/-!
# Work that follows the memory

Names of columns are only ever added to the memory.  The result of work that asks for
names can therefore be read off the memory that it leaves, and off every later one.
-/

namespace EntitySql

/-- What the first table answers, the second one answers alike. -/
def Memo.IsPartOf {κ α : Type} [DecidableEq κ] (first second : Memo κ α) : Prop :=
  ∀ key answer, first.find? key = some answer → second.find? key = some answer

namespace Memo

variable {κ α : Type} [DecidableEq κ] {first second third : Memo κ α}

theorem IsPartOf.refl (memo : Memo κ α) : memo.IsPartOf memo :=
  fun _ _ found => found

theorem IsPartOf.trans (partOf : first.IsPartOf second) (partOf' : second.IsPartOf third) :
    first.IsPartOf third :=
  fun key answer found => partOf' key answer (partOf key answer found)

theorem isPartOf_insertIfNew (memo : Memo κ α) (key : κ) (answer : α) :
    memo.IsPartOf (memo.insertIfNew key answer) := by
  intro other stored found
  by_cases same : other = key
  · subst same
    rw [insertIfNew_of_find? found, found]
  · rw [find?_insertIfNew_of_ne memo answer same, found]

/-- A stored answer is found again, whether it was there before or not. -/
theorem find?_insertIfNew_findD (memo : Memo κ α) (key : κ) (answer : α) :
    (memo.insertIfNew key (memo.findD key answer)).find? key = some (memo.findD key answer) := by
  rw [find?_insertIfNew_self]
  cases found : memo.find? key with
  | some stored => rw [findD_of_find? found, findD_of_find? found]
  | none => rw [findD_of_not_found found, findD_of_not_found found]

end Memo

/-- Columns that are named keep their names. -/
def Memory.Grows (memory after : Memory) : Prop :=
  memory.columns.IsPartOf after.columns

namespace Memory

variable {memory middle after : Memory}

theorem Grows.refl (memory : Memory) : memory.Grows memory :=
  Memo.IsPartOf.refl _

theorem Grows.trans (grows : memory.Grows middle) (grows' : middle.Grows after) :
    memory.Grows after :=
  Memo.IsPartOf.trans grows grows'

theorem grows_of_columns (same : after.columns = memory.columns) : memory.Grows after := by
  rw [Grows, same]
  exact Memo.IsPartOf.refl _

end Memory

/-- Started in a memory with the invariant, the work keeps it and the names of columns, and
its result is the one that the memory answers from then on. -/
def Recall.Follows {α : Type} (invariant : Memory → Prop) (work : Recall α)
    (result : Memory → α) : Prop :=
  ∀ memory, invariant memory →
    memory.Grows (work.run memory).2 ∧ invariant (work.run memory).2 ∧
      ∀ later, (work.run memory).2.Grows later → (work.run memory).1 = result later

/-- The same of work that may fail.  A failure is a result, too. -/
def Attempt.Follows {α : Type} (invariant : Memory → Prop) (work : Attempt α)
    (result : Memory → Except Failure α) : Prop :=
  Recall.Follows invariant work.run result

namespace Recall

variable {α β : Type} {invariant : Memory → Prop} {work : Recall α} {result : Memory → α}

theorem Follows.congr {result' : Memory → α} (follows : Follows invariant work result)
    (same : ∀ later, result later = result' later) : Follows invariant work result' := by
  intro memory holds
  obtain ⟨grows, kept, answers⟩ := follows memory holds
  exact ⟨grows, kept, fun later grown => (answers later grown).trans (same later)⟩

/-- The invariant and the names of a base are kept. -/
theorem Follows.ensures (follows : Follows invariant work result) (base : Memory) :
    Ensures (fun memory => invariant memory ∧ base.Grows memory) work
      fun value => ∃ later, value = result later := by
  rintro memory ⟨holds, grown⟩
  obtain ⟨grows, kept, answers⟩ := follows memory holds
  exact ⟨⟨_, answers _ (Memory.Grows.refl _)⟩, kept, grown.trans grows⟩

theorem follows_pure (value : α) : Follows invariant (pure value) fun _ => value :=
  fun memory holds => ⟨Memory.Grows.refl memory, holds, fun _ _ => rfl⟩

theorem Follows.bind {next : α → Recall β} {result' : α → Memory → β}
    (first : Follows invariant work result)
    (second : ∀ value, Follows invariant (next value) (result' value)) :
    Follows invariant (work >>= next) fun later => result' (result later) later := by
  intro memory holds
  obtain ⟨grows, kept, answers⟩ := first memory holds
  obtain ⟨grows', kept', answers'⟩ := second (work.run memory).1 (work.run memory).2 kept
  refine ⟨grows.trans grows', kept', fun later grown => ?_⟩
  -- The first result is read off the same later memory as the second.
  calc ((work >>= next).run memory).1 = result' (work.run memory).1 later := answers' later grown
    _ = result' (result later) later := by rw [answers later (grows'.trans grown)]

theorem follows_emit
    (ignores : ∀ memory event, invariant memory → invariant (memory.record event))
    (event : Event) : Follows invariant (Recall.emit event) fun _ => () :=
  fun memory holds =>
    ⟨Memory.grows_of_columns rfl, ignores memory event holds, fun _ _ => rfl⟩

theorem follows_mapM {work : α → Recall β} {result : α → Memory → β} {values : List α}
    (each : ∀ value ∈ values, Follows invariant (work value) (result value)) :
    Follows invariant (values.mapM work) fun later =>
      values.map fun value => result value later := by
  induction values with
  | nil => exact follows_pure []
  | cons value values ih =>
      have rest (first : β) :=
        (ih fun other member => each other (by simp [member])).bind fun rest =>
          follows_pure (first :: rest)
      rw [List.mapM_cons]
      exact (each value (by simp)).bind rest

end Recall

namespace Attempt

variable {α β : Type} {invariant : Memory → Prop} {work : Attempt α}
  {result : Memory → Except Failure α}

theorem follows_pure (value : α) : Follows invariant (pure value) fun _ => .ok value :=
  Recall.follows_pure _

theorem follows_throw (failure : Failure) :
    Follows invariant (throw failure : Attempt α) fun _ => .error failure :=
  Recall.follows_pure _

theorem Follows.bind {next : α → Attempt β} {result' : α → Memory → Except Failure β}
    (first : Follows invariant work result)
    (second : ∀ value, Follows invariant (next value) (result' value)) :
    Follows invariant (work >>= next) fun later =>
      (result later).bind fun value => result' value later := by
  let continued (outcome : Except Failure α) (later : Memory) : Except Failure β :=
    outcome.bind fun value => result' value later
  rw [Follows, ExceptT.run_bind]
  refine @Recall.Follows.bind _ _ _ _ _ _ continued first fun outcome => ?_
  cases outcome with
  | ok value => exact second value
  | error failure => exact Recall.follows_pure _

/-- Work that is only done under a condition. -/
theorem follows_unless (refused : Prop) [Decidable refused] (failure : Failure)
    (follows : Follows invariant work result) :
    Follows invariant (if refused then throw failure else work) fun later =>
      if refused then .error failure else result later := by
  split
  · exact follows_throw failure
  · exact follows

/-- Work that cannot fail, as work that may. -/
theorem follows_lift {work : Recall α} {result : Memory → α}
    (follows : Recall.Follows invariant work result) :
    Follows invariant (liftM work) fun later => .ok (result later) := by
  intro memory holds
  obtain ⟨grows, kept, answers⟩ := follows memory holds
  exact ⟨grows, kept, fun later grown => congrArg Except.ok (answers later grown)⟩

end Attempt

end EntitySql
