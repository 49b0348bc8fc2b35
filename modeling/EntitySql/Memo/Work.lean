import EntitySql.Memo.Program

/-!
# Work over a memo table

Work asks a memo table for answers and goes on by the replies.  What computes an answer is itself
work over the same table.  A run of it keeps a record of every call to the table, at any depth.
-/

namespace EntitySql

/-- Work over a memo table that ends with a result. -/
inductive MemoWork (κ α : Type) : Type → Type 1 where
  | done {β : Type} (result : β) : MemoWork κ α β
  /-- Asks for the stored answer. -/
  | find {β : Type} (key : κ) (next : Option α → MemoWork κ α β) : MemoWork κ α β
  /-- Asks for the stored answer, to be computed if there is none. -/
  | findOrCompute {β : Type} (key : κ) (compute : MemoWork κ α α) (next : α → MemoWork κ α β) :
      MemoWork κ α β
  /-- Like `findOrCompute`, with a computation that may fail. -/
  | findOrTryCompute {β ε : Type} (key : κ) (compute : MemoWork κ α (Except ε α))
      (next : Except ε α → MemoWork κ α β) : MemoWork κ α β

/-- What a computation did: its own calls, the last one first, the table that it left, and its
answer unless it failed. -/
structure MemoComputation (Call κ α : Type) where
  calls : List Call
  after : Memo κ α
  answer? : Option α

/-- A call to a memo table, with the computation if that ran, and with the answer unless there was
none. -/
structure MemoCall (κ α : Type) where
  key : κ
  before : Memo κ α
  computation? : Option (MemoComputation (MemoCall κ α) κ α)
  answer? : Option α
  after : Memo κ α

/-- The state of a run: the table, the calls so far, the last one first, and the computation of the
call that is being answered, if that ran. -/
structure MemoRun (κ α : Type) where
  table : Memo κ α := {}
  calls : List (MemoCall κ α) := []
  computation? : Option (MemoComputation (MemoCall κ α) κ α) := none

namespace MemoRun

variable {κ α β : Type}

/-- The table of a run. -/
def slot : MemoSlot (MemoRun κ α) κ α where
  read run := run.table
  write run table := { run with table }

/-- Runs a computation and notes what it did. -/
def noted (answer? : β → Option α) (compute : StateM (MemoRun κ α) β) :
    StateM (MemoRun κ α) β := fun run =>
  let (result, after) := compute.run { run with calls := [] }
  (result, { after with
    calls := after.calls ++ run.calls
    computation? := some ⟨after.calls, after.table, answer? result⟩ })

/-- Makes a call and records it. -/
def recorded (key : κ) (answer? : β → Option α) (call : StateM (MemoRun κ α) β) :
    StateM (MemoRun κ α) β := fun run =>
  let (reply, after) := call.run { run with computation? := none }
  (reply, { after with
    calls := ⟨key, run.table, after.computation?, answer? reply, after.table⟩ :: after.calls
    computation? := run.computation? })

end MemoRun

open MemoRun in
/-- Does the work and records its calls. -/
def MemoWork.run {κ α β : Type} [DecidableEq κ] : MemoWork κ α β → StateM (MemoRun κ α) β
  | done result => pure result
  | find key next => do
      let reply ← recorded key id do
        return (← get).table.find? key
      (next reply).run
  | findOrCompute key compute next => do
      let reply ← recorded key some (slot.findOrCompute key (noted some compute.run))
      (next reply).run
  | findOrTryCompute key compute next => do
      let reply ← recorded key Except.toOption
        (slot.findOrTryCompute key (ExceptT.mk (noted Except.toOption compute.run))).run
      (next reply).run

/-- The run of the work on an empty table. -/
def MemoWork.record {κ α β : Type} [DecidableEq κ] (work : MemoWork κ α β) : MemoRun κ α :=
  (work.run.run {}).2

namespace MemoRequest

variable {κ α ε : Type}

mutual

/-- A request as work that goes on by the reply. -/
def work : {β : Type} → MemoRequest κ α ε → (MemoReply α ε → MemoWork κ α β) → MemoWork κ α β
  | _, find key, next => .find key fun answer => next (.found answer)
  | _, findOrCompute key computation answer, next =>
      .findOrCompute key (workAll computation answer) fun stored => next (.recalled stored)
  | _, findOrTryCompute key computation outcome, next =>
      .findOrTryCompute key (workAll computation outcome) fun outcome => next (.outcome outcome)

/-- Requests in order as work with a result that is known. -/
def workAll : {β : Type} → List (MemoRequest κ α ε) → β → MemoWork κ α β
  | _, [], result => .done result
  | _, request :: rest, result => request.work fun _ => workAll rest result

end

end MemoRequest

end EntitySql
