import EntitySql.Catalog.Memory

/-!
# Invariants of the memory

Work on the memory is followed step by step: each step starts in a memory with the
invariant, leaves one with it, and says something about its result.
-/

namespace EntitySql

/-- Started in a memory with the invariant, the work keeps it and has a result of some
kind. -/
def Recall.Ensures {α : Type} (invariant : Memory → Prop) (work : Recall α)
    (result : α → Prop) : Prop :=
  ∀ memory, invariant memory → result (work.run memory).1 ∧ invariant (work.run memory).2

namespace Recall

variable {α β : Type} {invariant : Memory → Prop}

theorem run_bind_of {work : Recall α} {memory after : Memory} {value : α}
    (ran : work.run memory = (value, after)) (next : α → Recall β) :
    (work >>= next).run memory = (next value).run after := by
  simp only [StateT.run_bind, ran]
  rfl

theorem Ensures.mono {work : Recall α} {result result' : α → Prop}
    (ensures : Ensures invariant work result) (implies : ∀ value, result value → result' value) :
    Ensures invariant work result' :=
  fun memory holds => ⟨implies _ (ensures memory holds).1, (ensures memory holds).2⟩

theorem ensures_pure {value : α} {result : α → Prop} (holds : result value) :
    Ensures invariant (pure value) result :=
  fun _ kept => ⟨holds, kept⟩

theorem ensures_any {work : Recall α} : Ensures (fun _ => True) work fun _ => True :=
  fun _ _ => ⟨trivial, trivial⟩

theorem Ensures.bind {work : Recall α} {next : α → Recall β} {middle : α → Prop}
    {result : β → Prop} (first : Ensures invariant work middle)
    (second : ∀ value, middle value → Ensures invariant (next value) result) :
    Ensures invariant (work >>= next) result := by
  intro memory holds
  obtain ⟨middleHolds, kept⟩ := first memory holds
  exact second _ middleHolds _ kept

theorem ensures_emit (ignores : ∀ memory event, invariant memory → invariant (memory.record event))
    (event : Event) : Ensures invariant (Recall.emit event) fun _ => True :=
  fun memory holds => ⟨trivial, ignores memory event holds⟩

theorem ensures_mapM {work : α → Recall β} {result : β → Prop} {values : List α}
    (each : ∀ value ∈ values, Ensures invariant (work value) result) :
    Ensures invariant (values.mapM work) fun results => ∀ value ∈ results, result value := by
  induction values with
  | nil => exact ensures_pure (by simp)
  | cons value values ih =>
      rw [List.mapM_cons]
      refine (each value (by simp)).bind fun first firstHolds => ?_
      refine (ih fun other member => each other (by simp [member])).bind fun rest restHolds => ?_
      exact ensures_pure (by simpa using ⟨firstHolds, restHolds⟩)

end Recall

namespace Attempt

open Recall

variable {α β : Type} {invariant : Memory → Prop}

theorem run_bind_of_ok {work : Attempt α} {memory after : Memory} {value : α}
    (ran : work.run.run memory = (.ok value, after)) (next : α → Attempt β) :
    (work >>= next).run.run memory = (next value).run.run after := by
  rw [ExceptT.run_bind, Recall.run_bind_of ran]

theorem run_bind_of_error {work : Attempt α} {memory after : Memory} {failure : Failure}
    (ran : work.run.run memory = (.error failure, after)) (next : α → Attempt β) :
    (work >>= next).run.run memory = (.error failure, after) := by
  rw [ExceptT.run_bind, Recall.run_bind_of ran]
  rfl

theorem ensures_bind {work : Attempt α} {next : α → Attempt β}
    {middle : Except Failure α → Prop} {result : Except Failure β → Prop}
    (first : Ensures invariant work.run middle)
    (onOk : ∀ value, middle (.ok value) → Ensures invariant (next value).run result)
    (onError : ∀ failure, middle (.error failure) → result (.error failure)) :
    Ensures invariant (work >>= next).run result := by
  rw [ExceptT.run_bind]
  refine first.bind fun outcome holds => ?_
  cases outcome with
  | ok value => exact onOk value holds
  | error failure => exact ensures_pure (onError failure holds)

theorem run_lift {work : Recall α} {memory after : Memory} {value : α}
    (ran : work.run memory = (value, after)) :
    (liftM work : Attempt α).run.run memory = (.ok value, after) :=
  congrArg (fun result : α × Memory => (Except.ok result.1, result.2)) ran

theorem run_return_fst (work : Attempt α) (f : α → β) (memory : Memory) :
    ((do return f (← work) : Attempt β).run.run memory).1 = (work.run.run memory).1.map f := by
  rcases ran : work.run.run memory with ⟨failure | value, after⟩
  · rw [run_bind_of_error ran]
    rfl
  · rw [run_bind_of_ok ran]
    rfl

/-- Work that cannot fail, as work that may. -/
theorem ensures_lift {work : Recall α} {result : Except Failure α → Prop}
    (ensures : Ensures invariant work fun value => result (.ok value)) :
    Ensures invariant (liftM work : Attempt α).run result :=
  fun memory holds => ensures memory holds

theorem ensures_mapM {work : α → Attempt β} {result : β → Prop} {values : List α}
    (each : ∀ value ∈ values, Ensures invariant (work value).run
      fun outcome => ∀ value, outcome = .ok value → result value) :
    Ensures invariant (values.mapM work).run
      fun outcome => ∀ results, outcome = .ok results → ∀ value ∈ results, result value := by
  induction values with
  | nil =>
      refine ensures_pure ?_
      rintro results ⟨⟩
      simp
  | cons value values ih =>
      rw [List.mapM_cons]
      refine ensures_bind (each value (by simp)) (fun first firstHolds => ?_) (by simp)
      refine ensures_bind (ih fun other member => each other (by simp [member]))
        (fun rest restHolds => ?_) (by simp)
      refine ensures_pure ?_
      rintro results ⟨⟩
      simpa using ⟨firstHolds first rfl, restHolds rest rfl⟩

end Attempt

end EntitySql
