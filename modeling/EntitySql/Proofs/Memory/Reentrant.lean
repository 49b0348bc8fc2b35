import EntitySql.Memo.Work
import EntitySql.Proofs.Memory.Follows

/-!
# A memo table answers each key once

Computations may use the table that their answers are for.  However deep they do so, the table only
grows, and what any call was told about a key is what the table says about it in the end.
-/

namespace EntitySql

/-! ## Calls that are recorded -/

namespace MemoRun

variable {κ α β : Type} {key : κ} {run after : MemoRun κ α}

theorem recorded_run {answer? : β → Option α} {call : StateM (MemoRun κ α) β} {reply : β}
    (ran : call.run { run with computation? := none } = (reply, after)) :
    (recorded key answer? call).run run = (reply, { after with
      calls := ⟨key, run.table, after.computation?, answer? reply, after.table⟩ :: after.calls
      computation? := run.computation? }) := by
  simp only [StateT.run, recorded] at ran ⊢
  rw [ran]

theorem noted_run {answer? : β → Option α} {compute : StateM (MemoRun κ α) β} {result : β}
    (ran : compute.run { run with calls := [] } = (result, after)) :
    (noted answer? compute).run run = (result, { after with
      calls := after.calls ++ run.calls
      computation? := some ⟨after.calls, after.table, answer? result⟩ }) := by
  simp only [StateT.run, noted] at ran ⊢
  rw [ran]

/-- A call goes on by its reply, in a run with the table that it left. -/
theorem exists_recorded_bind_run {γ : Type} {answer? : γ → Option α}
    {call : StateM (MemoRun κ α) γ} {next : γ → StateM (MemoRun κ α) β} {reply : γ}
    {table : Memo κ α} (ran : call.run { run with computation? := none } = (reply, after))
    (left : after.table = table) :
    ∃ continued : MemoRun κ α, continued.table = table ∧
      (recorded key answer? call >>= next).run run = (next reply).run continued := by
  rw [StateT.run_bind, recorded_run ran]
  refine ⟨_, ?_, rfl⟩
  exact left

variable [DecidableEq κ]

theorem findOrCompute_noted_run {compute : StateM (MemoRun κ α) α} {answer : α}
    (notFound : run.table.find? key = none)
    (ran : compute.run { run with calls := [] } = (answer, after)) :
    (slot.findOrCompute key (noted some compute)).run run =
      (after.table.findD key answer, ⟨after.table.insertIfNew key answer,
        after.calls ++ run.calls, some ⟨after.calls, after.table, some answer⟩⟩) := by
  rw [@MemoSlot.findOrCompute_run_of_not_found _ _ _ _ slot key run _ answer notFound _
    (noted_run ran), MemoSlot.store_run]
  rfl

theorem findOrTryCompute_noted_run {ε : Type} {compute : StateM (MemoRun κ α) (Except ε α)}
    {outcome : Except ε α} (notFound : run.table.find? key = none)
    (ran : compute.run { run with calls := [] } = (outcome, after)) :
    (slot.findOrTryCompute key (ExceptT.mk (noted Except.toOption compute))).run.run run =
      (outcome.map (after.table.findD key), ⟨after.table.insertOk key outcome,
        after.calls ++ run.calls, some ⟨after.calls, after.table, outcome.toOption⟩⟩) := by
  rw [@MemoSlot.findOrTryCompute_run_of_not_found _ _ _ _ _ slot key run _ notFound
    (ExceptT.mk (noted Except.toOption compute)) outcome (noted_run ran)]
  cases outcome with
  | ok answer =>
      simp only [MemoSlot.store_run]
      rfl
  | error failure => rfl

end MemoRun

/-! ## Records of calls -/

namespace MemoCall

variable {κ α : Type} [DecidableEq κ]

/-- The call is about the key, and the key is answered in the table since then. -/
def Binds (call : MemoCall κ α) (key : κ) : Prop :=
  call.key = key ∧ call.before.find? key = none ∧ (call.after.find? key).isSome

/-- What holds of every call to a memo table. -/
structure Sound (call : MemoCall κ α) : Prop where
  grows : call.before.IsPartOf call.after
  answered : ∀ answer, call.answer? = some answer → call.after.find? call.key = some answer
  unbound : ∀ computation, call.computation? = some computation →
    call.before.find? call.key = none
  failed : ∀ computation, call.computation? = some computation → computation.answer? = none →
    call.after = computation.after ∧
      ((call.after.find? call.key).isSome → ∃ nested ∈ computation.calls, nested.Binds call.key)

/-- The calls of work that found the first table and left the last one, the last call first. -/
structure AreOf (calls : List (MemoCall κ α)) (first last : Memo κ α) : Prop where
  grows : first.IsPartOf last
  after_first : ∀ call ∈ calls, first.IsPartOf call.before
  before_last : ∀ call ∈ calls, call.after.IsPartOf last
  ordered : calls.Pairwise fun later earlier => earlier.after.IsPartOf later.after
  sound : ∀ call ∈ calls, call.Sound
  nested : ∀ call ∈ calls, ∀ computation, call.computation? = some computation →
    computation.calls ⊆ calls
  binds : ∀ key, first.find? key = none → (last.find? key).isSome → ∃ call ∈ calls, call.Binds key

namespace AreOf

variable {first middle last : Memo κ α} {calls earlier later : List (MemoCall κ α)}

theorem nil (memo : Memo κ α) : AreOf [] memo memo where
  grows := Memo.IsPartOf.refl memo
  after_first := by simp
  before_last := by simp
  ordered := List.Pairwise.nil
  sound := by simp
  nested := by simp
  binds := by
    intro key unbound bound
    rw [unbound] at bound
    cases bound

/-- Work after work. -/
theorem append (before : AreOf earlier first middle) (after : AreOf later middle last) :
    AreOf (later ++ earlier) first last where
  grows := before.grows.trans after.grows
  after_first := by
    intro call member
    rcases List.mem_append.mp member with member | member
    · exact before.grows.trans (after.after_first call member)
    · exact before.after_first call member
  before_last := by
    intro call member
    rcases List.mem_append.mp member with member | member
    · exact after.before_last call member
    · exact (before.before_last call member).trans after.grows
  ordered := by
    refine List.pairwise_append.mpr ⟨after.ordered, before.ordered, ?_⟩
    intro call member call' member'
    exact (before.before_last call' member').trans
      ((after.after_first call member).trans (after.sound call member).grows)
  sound := by
    intro call member
    rcases List.mem_append.mp member with member | member
    · exact after.sound call member
    · exact before.sound call member
  nested := by
    intro call member computation ran
    rcases List.mem_append.mp member with member | member
    · exact List.subset_append_of_subset_left _ (after.nested call member computation ran)
    · exact List.subset_append_of_subset_right _ (before.nested call member computation ran)
  binds := by
    intro key unbound bound
    cases found : middle.find? key with
    | none =>
        obtain ⟨call, member, binds⟩ := after.binds key found bound
        exact ⟨call, List.mem_append_left _ member, binds⟩
    | some answer =>
        obtain ⟨call, member, binds⟩ := before.binds key unbound (by simp [found])
        exact ⟨call, List.mem_append_right _ member, binds⟩

/-- A call after those of its computation. -/
theorem cons {call : MemoCall κ α} (computed : AreOf calls call.before middle)
    (grows : middle.IsPartOf call.after)
    (others : ∀ key, key ≠ call.key → call.after.find? key = middle.find? key)
    (nested : ∀ computation, call.computation? = some computation → computation.calls = calls)
    (sound : call.Sound) : AreOf (call :: calls) call.before call.after where
  grows := sound.grows
  after_first := by
    refine List.forall_mem_cons.mpr ⟨Memo.IsPartOf.refl _, computed.after_first⟩
  before_last := by
    refine List.forall_mem_cons.mpr ⟨Memo.IsPartOf.refl _, ?_⟩
    exact fun call' member => (computed.before_last call' member).trans grows
  ordered := by
    refine List.pairwise_cons.mpr ⟨?_, computed.ordered⟩
    exact fun call' member => (computed.before_last call' member).trans grows
  sound := List.forall_mem_cons.mpr ⟨sound, computed.sound⟩
  nested := by
    refine List.forall_mem_cons.mpr ⟨?_, ?_⟩
    · intro computation ran
      rw [nested computation ran]
      exact List.subset_cons_self call calls
    · intro call' member computation ran
      exact List.subset_cons_of_subset call (computed.nested call' member computation ran)
  binds := by
    intro key unbound bound
    by_cases same : key = call.key
    · exact ⟨call, List.mem_cons_self, same.symm, unbound, bound⟩
    · rw [others key same] at bound
      obtain ⟨call', member, binds⟩ := computed.binds key unbound bound
      exact ⟨call', List.mem_cons_of_mem call member, binds⟩

/-- A call that is answered by the table. -/
theorem recalled (memo : Memo κ α) (key : κ) :
    AreOf [⟨key, memo, none, memo.find? key, memo⟩] memo memo := by
  refine (nil memo).cons (Memo.IsPartOf.refl memo) (fun _ _ => rfl) (by simp) ?_
  exact {
    grows := Memo.IsPartOf.refl memo
    answered := fun _ found => found
    unbound := by simp
    failed := by simp }

variable {key : κ}

/-- A call whose answer is computed.  The answer that was stored during the computation is kept. -/
theorem stored (computed : AreOf calls first middle) (unbound : first.find? key = none)
    (answer : α) :
    AreOf (⟨key, first, some ⟨calls, middle, some answer⟩, some (middle.findD key answer),
      middle.insertIfNew key answer⟩ :: calls) first (middle.insertIfNew key answer) := by
  refine computed.cons (Memo.isPartOf_insertIfNew middle key answer)
    (fun _ differs => Memo.find?_insertIfNew_of_ne middle answer differs) (by simp) ?_
  exact {
    grows := computed.grows.trans (Memo.isPartOf_insertIfNew middle key answer)
    answered := by
      rintro _ ⟨⟩
      exact Memo.find?_insertIfNew_self middle key answer
    unbound := fun _ _ => unbound
    failed := by simp }

/-- A call whose computation fails.  Nothing but a call of the computation can bind the key. -/
theorem refused (computed : AreOf calls first middle) (unbound : first.find? key = none) :
    AreOf (⟨key, first, some ⟨calls, middle, none⟩, none, middle⟩ :: calls) first middle := by
  refine computed.cons (Memo.IsPartOf.refl middle) (fun _ _ => rfl) (by simp) ?_
  exact {
    grows := computed.grows
    answered := by simp
    unbound := fun _ _ => unbound
    failed := by
      rintro _ ⟨⟩ -
      exact ⟨rfl, computed.binds key unbound⟩ }

theorem tried {ε : Type} (computed : AreOf calls first middle) (unbound : first.find? key = none)
    (outcome : Except ε α) :
    AreOf (⟨key, first, some ⟨calls, middle, outcome.toOption⟩,
      (outcome.map (middle.findD key)).toOption, middle.insertOk key outcome⟩ :: calls)
      first (middle.insertOk key outcome) := by
  cases outcome with
  | ok answer => exact computed.stored unbound answer
  | error failure => exact computed.refused unbound

end AreOf

end MemoCall

/-! ## Runs of work -/

namespace MemoRun

open MemoCall

variable {κ α β γ ε : Type} [DecidableEq κ]

/-- The work adds its calls to the record. -/
def Records (work : StateM (MemoRun κ α) β) : Prop :=
  ∀ run, ∃ calls, (work.run run).2.calls = calls ++ run.calls ∧
    (work.run run).2.computation? = run.computation? ∧
    AreOf calls run.table (work.run run).2.table

theorem records_pure (result : β) : Records (pure result : StateM (MemoRun κ α) β) :=
  fun run => ⟨[], rfl, rfl, AreOf.nil run.table⟩

theorem Records.bind {work : StateM (MemoRun κ α) β} {next : β → StateM (MemoRun κ α) γ}
    (first : Records work) (second : ∀ result, Records (next result)) :
    Records (work >>= next) := by
  intro run
  obtain ⟨earlier, recorded, kept, areOf⟩ := first run
  obtain ⟨later, recorded', kept', areOf'⟩ := second (work.run run).1 (work.run run).2
  refine ⟨later ++ earlier, ?_, kept'.trans kept, areOf.append areOf'⟩
  calc ((work >>= next).run run).2.calls = later ++ (work.run run).2.calls := recorded'
    _ = later ++ earlier ++ run.calls := by rw [recorded, List.append_assoc]

variable {key : κ}

/-- A call adds itself to the calls of its computation. -/
theorem records_recorded {answer? : β → Option α} {call : StateM (MemoRun κ α) β}
    (answers : ∀ run, run.computation? = none → ∃ reply table calls computation?,
      call.run run = (reply, ⟨table, calls ++ run.calls, computation?⟩) ∧
      AreOf (⟨key, run.table, computation?, answer? reply, table⟩ :: calls) run.table table) :
    Records (recorded key answer? call) := by
  intro run
  obtain ⟨reply, table, calls, computation?, ran, areOf⟩ :=
    answers { run with computation? := none } rfl
  rw [recorded_run ran]
  exact ⟨⟨key, run.table, computation?, answer? reply, table⟩ :: calls, rfl, rfl, areOf⟩

/-- A call that leaves the run alone and replies with what the table says. -/
theorem exists_areOf_recalled {answer? : β → Option α} {call : StateM (MemoRun κ α) β} {reply : β}
    {run : MemoRun κ α} (unasked : run.computation? = none) (ran : call.run run = (reply, run))
    (told : answer? reply = run.table.find? key) :
    ∃ reply table calls computation?,
      call.run run = (reply, ⟨table, calls ++ run.calls, computation?⟩) ∧
      AreOf (⟨key, run.table, computation?, answer? reply, table⟩ :: calls) run.table table := by
  refine ⟨reply, run.table, [], none, ?_, ?_⟩
  · rw [ran, ← unasked]
    rfl
  · rw [told]
    exact AreOf.recalled run.table key

theorem records_find (key : κ) : Records (recorded key id (do
    return (← get).table.find? key : StateM (MemoRun κ α) (Option α))) :=
  records_recorded fun _ unasked => exists_areOf_recalled unasked rfl rfl

/-- The calls of a computation, which begins with none. -/
theorem Records.areOf {compute : StateM (MemoRun κ α) β} (records : Records compute)
    {run after : MemoRun κ α} {result : β}
    (ran : compute.run { run with calls := [] } = (result, after)) :
    AreOf after.calls run.table after.table := by
  obtain ⟨calls, recorded, -, areOf⟩ := records { run with calls := [] }
  rw [ran] at recorded areOf
  rw [recorded, List.append_nil]
  exact areOf

theorem Records.findOrCompute {compute : StateM (MemoRun κ α) α} (records : Records compute) :
    Records (recorded key some (slot.findOrCompute key (noted some compute))) := by
  refine records_recorded fun run unasked => ?_
  cases found : run.table.find? key with
  | some answer =>
      exact exists_areOf_recalled unasked (MemoSlot.findOrCompute_run_of_find? found _) found.symm
  | none =>
      cases ran : compute.run { run with calls := [] } with
      | mk answer after =>
          exact ⟨_, _, after.calls, _, findOrCompute_noted_run found ran,
            (records.areOf ran).stored found answer⟩

theorem Records.findOrTryCompute {compute : StateM (MemoRun κ α) (Except ε α)}
    (records : Records compute) :
    Records (recorded key Except.toOption
      (slot.findOrTryCompute key (ExceptT.mk (noted Except.toOption compute))).run) := by
  refine records_recorded fun run unasked => ?_
  cases found : run.table.find? key with
  | some answer =>
      exact exists_areOf_recalled unasked (MemoSlot.findOrTryCompute_run_of_find? found _)
        found.symm
  | none =>
      cases ran : compute.run { run with calls := [] } with
      | mk outcome after =>
          exact ⟨_, _, after.calls, _, findOrTryCompute_noted_run found ran,
            (records.areOf ran).tried found outcome⟩

end MemoRun

open MemoRun in
theorem MemoWork.records_run {κ α β : Type} [DecidableEq κ] (work : MemoWork κ α β) :
    Records work.run := by
  -- One hypothesis is about the computation, the other about the work after any reply.
  induction work with
  | done result => exact records_pure result
  | find key next next_ih => exact (records_find key).bind next_ih
  | findOrCompute key compute next compute_ih next_ih =>
      exact compute_ih.findOrCompute.bind next_ih
  | findOrTryCompute key compute next compute_ih next_ih =>
      exact compute_ih.findOrTryCompute.bind next_ih

/-- Every key is answered once, whatever computations do with the table.  The table only grows, what
a call was told about its key is what the table says in the end, a computation runs for a missing
key only, and one that fails stores nothing, so that only a call of its own can bind the key. -/
theorem MemoWork.answers_each_key_once {κ α β : Type} [DecidableEq κ] (work : MemoWork κ α β) :
    work.record.calls.Pairwise (fun later earlier => earlier.after.IsPartOf later.after) ∧
    ∀ call ∈ work.record.calls,
      call.before.IsPartOf call.after ∧ call.after.IsPartOf work.record.table ∧
      (∀ answer, call.answer? = some answer →
        work.record.table.find? call.key = some answer) ∧
      ∀ computation, call.computation? = some computation →
        call.before.find? call.key = none ∧ computation.calls ⊆ work.record.calls ∧
        (computation.answer? = none → call.after = computation.after ∧
          ((call.after.find? call.key).isSome →
            ∃ nested ∈ computation.calls, nested.Binds call.key)) := by
  obtain ⟨calls, recorded, -, areOf⟩ := work.records_run {}
  have all : work.record.calls = calls := recorded.trans (List.append_nil calls)
  rw [all]
  refine ⟨areOf.ordered, fun call member => ?_⟩
  have sound := areOf.sound call member
  have kept : call.after.IsPartOf work.record.table := areOf.before_last call member
  refine ⟨sound.grows, kept, fun answer told => kept _ _ (sound.answered answer told), ?_⟩
  intro computation ran
  exact ⟨sound.unbound computation ran, areOf.nested call member computation ran,
    sound.failed computation ran⟩

/-- A computation that fails after it has stored an answer to its own key, and one that stores
another answer than it comes to. -/
theorem MemoWork.answers_each_key_once_of_nested :
    let work : MemoWork Nat Nat Unit :=
      .findOrTryCompute 1 (.findOrCompute 1 (.done 7) fun _ => .done (.error ())) fun _ =>
        .findOrCompute 0 (.findOrCompute 0 (.done 1) fun _ => .done 2) fun _ => .done ()
    ∃ failing ∈ work.record.calls, ∃ computation, failing.computation? = some computation ∧
      computation.answer? = none ∧ failing.before.find? 1 = none ∧
      (∃ nested ∈ computation.calls, nested.Binds 1) ∧ work.record.table.find? 0 = some 1 := by
  intro work
  have outer : work.record.calls[0]?.map (fun call => (call.key, call.answer?)) =
      some (0, some 1) := by
    decide +kernel
  have failing : work.record.calls[2]?.map (fun call =>
      (call.key, call.computation?.map (·.answer?), (call.after.find? 1).isSome)) =
        some (1, some none, true) := by
    decide +kernel
  obtain ⟨outer, called, facts⟩ := Option.map_eq_some_iff.mp outer
  obtain ⟨outerKey, told⟩ := Prod.mk.inj facts
  obtain ⟨failing, called', facts'⟩ := Option.map_eq_some_iff.mp failing
  simp only [Prod.mk.injEq] at facts'
  obtain ⟨failingKey, ran, bound⟩ := facts'
  obtain ⟨computation, ran, refused⟩ := Option.map_eq_some_iff.mp ran
  obtain ⟨-, answers⟩ := work.answers_each_key_once
  obtain ⟨-, -, kept, -⟩ := answers outer (List.mem_of_getElem? called)
  obtain ⟨-, -, -, computed⟩ := answers failing (List.mem_of_getElem? called')
  obtain ⟨unbound, -, failed⟩ := computed computation ran
  rw [failingKey] at unbound failed
  refine ⟨failing, List.mem_of_getElem? called', computation, ran, refused, unbound,
    (failed refused).2 bound, ?_⟩
  rw [← outerKey]
  exact kept 1 told

/-! ## Requests as work -/

namespace MemoRequest

open MemoRun

variable {κ α ε : Type} [DecidableEq κ] {key : κ} {computation : List (MemoRequest κ α ε)}
  {answer stored : α} {outcome : Except ε α} {memo after : Memo κ α}

theorem findOrCompute_run_of_find? (found : memo.find? key = some stored) :
    (findOrCompute key computation answer).run.run memo = (.recalled stored, memo) := by
  have ran := @MemoSlot.findOrCompute_run_of_find? _ _ _ _ wholeSlot key memo stored found
    (do runAll computation; return answer)
  rw [run, StateT.run_bind, ran]
  rfl

theorem findOrCompute_run_of_not_found (notFound : memo.find? key = none)
    (left : (runAll computation).run memo = ((), after)) :
    (findOrCompute key computation answer).run.run memo =
      (.recalled (after.findD key answer), after.insertIfNew key answer) := by
  have computes : (do runAll computation; return answer : StateM (Memo κ α) α).run memo =
      (answer, after) := by
    rw [StateT.run_bind, left]
    rfl
  rw [run, StateT.run_bind, @MemoSlot.findOrCompute_run_of_not_found _ _ _ _ wholeSlot key memo
    after answer notFound _ computes, MemoSlot.store_run]
  rfl

theorem findOrTryCompute_run_of_find? (found : memo.find? key = some stored) :
    (findOrTryCompute key computation outcome).run.run memo = (.outcome (.ok stored), memo) := by
  have ran := @MemoSlot.findOrTryCompute_run_of_find? _ _ _ ε _ wholeSlot key memo stored found
    (do runAll computation; MonadExcept.ofExcept outcome)
  rw [run, StateT.run_bind, ran]
  rfl

theorem findOrTryCompute_run_of_not_found (notFound : memo.find? key = none)
    (left : (runAll computation).run memo = ((), after)) :
    (findOrTryCompute key computation outcome).run.run memo =
      (.outcome (outcome.map (after.findD key)), after.insertOk key outcome) := by
  have computes : (do runAll computation; MonadExcept.ofExcept outcome :
      ExceptT ε (StateM (Memo κ α)) α).run.run memo = (outcome, after) := by
    have lifted : (liftM (runAll computation) : ExceptT ε (StateM (Memo κ α)) Unit).run.run memo =
        (.ok (), after) := by
      change (Except.ok <$> runAll computation).run memo = _
      rw [StateT.run_map, left]
      rfl
    rw [ExceptT.run_bind, StateT.run_bind, lifted]
    cases outcome <;> rfl
  rw [run, StateT.run_bind, @MemoSlot.findOrTryCompute_run_of_not_found _ _ _ ε _ wholeSlot key
    memo after notFound _ outcome computes]
  cases outcome with
  | ok answer =>
      simp only [MemoSlot.store_run]
      rfl
  | error failure => rfl

mutual

/-- A request leaves the same table as the work that it is, which goes on by the same reply. -/
theorem run_work {β : Type} (request : MemoRequest κ α ε)
    (next : MemoReply α ε → MemoWork κ α β) (run : MemoRun κ α) :
    ∃ after : MemoRun κ α, after.table = (request.run.run run.table).2 ∧
      (request.work next).run.run run = (next (request.run.run run.table).1).run.run after := by
  let asked : MemoRun κ α := { run with computation? := none }
  cases request with
  | find key =>
      have ran : (do return (← get).table.find? key : StateM (MemoRun κ α) (Option α)).run asked =
          (run.table.find? key, asked) := rfl
      exact exists_recorded_bind_run ran rfl
  | findOrCompute key computation answer =>
      cases found : run.table.find? key with
      | some stored =>
          rw [findOrCompute_run_of_find? found]
          exact exists_recorded_bind_run
            (@MemoSlot.findOrCompute_run_of_find? _ _ _ _ slot key asked stored found _) rfl
      | none =>
          obtain ⟨after, table, ran⟩ := run_workAll computation answer { asked with calls := [] }
          have left : (runAll computation).run run.table = ((), after.table) :=
            Prod.ext rfl table.symm
          rw [findOrCompute_run_of_not_found found left]
          exact exists_recorded_bind_run
            (@findOrCompute_noted_run _ _ key asked after _ _ answer found ran) rfl
  | findOrTryCompute key computation outcome =>
      cases found : run.table.find? key with
      | some stored =>
          rw [findOrTryCompute_run_of_find? found]
          exact exists_recorded_bind_run
            (@MemoSlot.findOrTryCompute_run_of_find? _ _ _ ε _ slot key asked stored found _) rfl
      | none =>
          obtain ⟨after, table, ran⟩ := run_workAll computation outcome { asked with calls := [] }
          have left : (runAll computation).run run.table = ((), after.table) :=
            Prod.ext rfl table.symm
          rw [findOrTryCompute_run_of_not_found found left]
          exact exists_recorded_bind_run
            (@findOrTryCompute_noted_run _ _ key asked after _ ε _ outcome found ran) rfl

theorem run_workAll {β : Type} (requests : List (MemoRequest κ α ε)) (result : β)
    (run : MemoRun κ α) :
    ∃ after : MemoRun κ α, after.table = ((runAll requests).run run.table).2 ∧
      (workAll requests result).run.run run = (result, after) := by
  cases requests with
  | nil => exact ⟨run, by rw [runAll]; rfl, by rw [workAll, MemoWork.run]; rfl⟩
  | cons request rest =>
      obtain ⟨after, table, ran⟩ := run_work request (fun _ => workAll rest result) run
      obtain ⟨after', table', ran'⟩ := run_workAll rest result after
      rw [table] at table'
      exact ⟨after', table'.trans rfl, by rw [workAll, ran, ran']⟩

end

/-- What holds of all work over an empty table holds of requests to one. -/
theorem table_record_workAll {β : Type} (requests : List (MemoRequest κ α ε)) (result : β) :
    (workAll requests result).record.table = ((runAll requests).run {}).2 := by
  obtain ⟨after, table, ran⟩ := run_workAll requests result {}
  rw [MemoWork.record, ran]
  exact table

end MemoRequest

end EntitySql
