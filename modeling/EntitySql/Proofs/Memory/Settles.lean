import EntitySql.Proofs.Memory.Ensures

/-!
# Work with one result

Some work has the same result in every memory with an invariant, and keeps the
invariant.  So has everything that is put together from such work.
-/

namespace EntitySql

/-- Started in any memory with the invariant, the work keeps it and has the same result,
which is of some kind. -/
def Recall.Settles {α : Type} (invariant : Memory → Prop) (work : Recall α)
    (result : α → Prop) : Prop :=
  ∃ answer, result answer ∧ Ensures invariant work (· = answer)

/-- The same of work that may fail.  A failure is one result, too. -/
def Attempt.Settles {α : Type} (invariant : Memory → Prop) (work : Attempt α)
    (result : α → Prop) : Prop :=
  Recall.Settles invariant work.run fun outcome => ∀ value, outcome = .ok value → result value

namespace Recall

variable {α β : Type} {invariant : Memory → Prop} {work : Recall α} {result : α → Prop}

theorem Settles.run_eq (settles : Settles invariant work result) {first second : Memory}
    (holds : invariant first) (holds' : invariant second) :
    (work.run first).1 = (work.run second).1 := by
  obtain ⟨answer, -, ensures⟩ := settles
  exact (ensures first holds).1.trans (ensures second holds').1.symm

theorem Settles.keeps (settles : Settles invariant work result) {memory : Memory}
    (holds : invariant memory) : invariant (work.run memory).2 := by
  obtain ⟨answer, -, ensures⟩ := settles
  exact (ensures memory holds).2

theorem Settles.run_result (settles : Settles invariant work result) {memory : Memory}
    (holds : invariant memory) : result (work.run memory).1 := by
  obtain ⟨answer, kind, ensures⟩ := settles
  rw [(ensures memory holds).1]
  exact kind

/-- In every memory with the invariant the result is that in a given one. -/
theorem Settles.ensures_run (settles : Settles invariant work result) {base : Memory}
    (holds : invariant base) : Ensures invariant work (· = (work.run base).1) :=
  fun _ holds' => ⟨settles.run_eq holds' holds, settles.keeps holds'⟩

theorem Settles.mono {result' : α → Prop} (settles : Settles invariant work result)
    (implies : ∀ value, result value → result' value) : Settles invariant work result' := by
  obtain ⟨answer, kind, ensures⟩ := settles
  exact ⟨answer, implies answer kind, ensures⟩

/-- The result may be compared instead of given. -/
theorem settles_of_run_eq
    (same : ∀ first second, invariant first → invariant second →
      (work.run first).1 = (work.run second).1)
    (keeps : ∀ memory, invariant memory → invariant (work.run memory).2) :
    Settles invariant work fun _ => True := by
  by_cases inhabited : ∃ memory, invariant memory
  · obtain ⟨base, baseHolds⟩ := inhabited
    exact ⟨(work.run base).1, trivial,
      fun memory holds => ⟨same memory base holds baseHolds, keeps memory holds⟩⟩
  · exact ⟨(work.run {}).1, trivial, fun memory holds => absurd ⟨memory, holds⟩ inhabited⟩

theorem settles_pure {value : α} (holds : result value) :
    Settles invariant (pure value) result :=
  ⟨value, holds, ensures_pure rfl⟩

theorem Settles.bind {next : α → Recall β} {result' : β → Prop}
    (first : Settles invariant work result)
    (second : ∀ value, result value → Settles invariant (next value) result') :
    Settles invariant (work >>= next) result' := by
  obtain ⟨middle, kind, ensures⟩ := first
  obtain ⟨answer, kind', ensures'⟩ := second middle kind
  refine ⟨answer, kind', ensures.bind ?_⟩
  rintro _ rfl
  exact ensures'

theorem settles_emit
    (ignores : ∀ memory event, invariant memory → invariant (memory.record event))
    (event : Event) : Settles invariant (Recall.emit event) fun _ => True :=
  ⟨(), trivial, fun memory holds => ⟨rfl, ignores memory event holds⟩⟩

theorem settles_mapM {work : α → Recall β} {result : β → Prop} {values : List α}
    (each : ∀ value ∈ values, Settles invariant (work value) result) :
    Settles invariant (values.mapM work) fun results => ∀ value ∈ results, result value := by
  induction values with
  | nil => exact settles_pure (by simp)
  | cons value values ih =>
      rw [List.mapM_cons]
      refine (each value (by simp)).bind fun first firstHolds => ?_
      refine (ih fun other member => each other (by simp [member])).bind fun rest restHolds => ?_
      exact settles_pure (by simpa using ⟨firstHolds, restHolds⟩)

end Recall

namespace Attempt

variable {α β : Type} {invariant : Memory → Prop} {work : Attempt α} {result : α → Prop}

theorem Settles.mono {result' : α → Prop} (settles : Settles invariant work result)
    (implies : ∀ value, result value → result' value) : Settles invariant work result' :=
  Recall.Settles.mono settles fun _ onOk value isOk => implies value (onOk value isOk)

theorem settles_pure {value : α} (holds : result value) :
    Settles invariant (pure value) result := by
  refine Recall.settles_pure ?_
  rintro _ ⟨⟩
  exact holds

theorem settles_throw (failure : Failure) : Settles invariant (throw failure) result := by
  refine Recall.settles_pure ?_
  rintro _ ⟨⟩

theorem settles_ofExcept {outcome : Except Failure α}
    (holds : ∀ value, outcome = .ok value → result value) :
    Settles invariant (MonadExcept.ofExcept outcome) result := by
  cases outcome with
  | ok value => exact settles_pure (holds value rfl)
  | error failure => exact settles_throw failure

theorem Settles.bind {next : α → Attempt β} {result' : β → Prop}
    (first : Settles invariant work result)
    (second : ∀ value, result value → Settles invariant (next value) result') :
    Settles invariant (work >>= next) result' := by
  rw [Settles, ExceptT.run_bind]
  refine Recall.Settles.bind first fun outcome onOk => ?_
  cases outcome with
  | ok value => exact second value (onOk value rfl)
  | error failure => exact settles_throw failure

/-- Work that cannot fail, as work that may. -/
theorem settles_lift {work : Recall α} (settles : Recall.Settles invariant work result) :
    Settles invariant (liftM work) result := by
  obtain ⟨answer, kind, ensures⟩ := settles
  refine ⟨.ok answer, ?_, fun memory holds => ?_⟩
  · rintro _ ⟨⟩
    exact kind
  · obtain ⟨isAnswer, kept⟩ := ensures memory holds
    exact ⟨congrArg Except.ok isAnswer, kept⟩

theorem settles_mapM {work : α → Attempt β} {result : β → Prop} {values : List α}
    (each : ∀ value ∈ values, Settles invariant (work value) result) :
    Settles invariant (values.mapM work) fun results => ∀ value ∈ results, result value := by
  induction values with
  | nil => exact settles_pure (by simp)
  | cons value values ih =>
      rw [List.mapM_cons]
      refine (each value (by simp)).bind fun first firstHolds => ?_
      refine (ih fun other member => each other (by simp [member])).bind fun rest restHolds => ?_
      exact settles_pure (by simpa using ⟨firstHolds, restHolds⟩)

end Attempt

end EntitySql
