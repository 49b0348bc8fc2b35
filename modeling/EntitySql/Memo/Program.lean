import EntitySql.Memo.Basic

/-!
# Programs over a memo table

A program is a sequence of requests to one memo table.  The computation of an
answer is itself a program over the same table, which runs before the answer is
given.
-/

namespace EntitySql

/-- A request to a memo table. -/
inductive MemoRequest (κ α ε : Type) where
  /-- Asks for the stored answer. -/
  | find (key : κ)
  /-- Asks for the stored answer, to be computed if there is none. -/
  | findOrCompute (key : κ) (computation : List (MemoRequest κ α ε)) (answer : α)
  /-- Like `findOrCompute`, with a computation that may fail. -/
  | findOrTryCompute (key : κ) (computation : List (MemoRequest κ α ε)) (outcome : Except ε α)

/-- The reply to a request. -/
inductive MemoReply (α ε : Type) where
  | found (answer : Option α)
  | recalled (answer : α)
  | outcome (outcome : Except ε α)

namespace MemoRequest

variable {κ α ε : Type} [DecidableEq κ]

/-- The key that a request is about. -/
def key : MemoRequest κ α ε → κ
  | find key => key
  | findOrCompute key _ _ => key
  | findOrTryCompute key _ _ => key

/-- The whole state is the table. -/
def wholeSlot : MemoSlot (Memo κ α) κ α where
  read memo := memo
  write _ memo := memo

/-- The computation of the request runs when it meets this table. -/
def computes (memo : Memo κ α) : MemoRequest κ α ε → Bool
  | find _ => false
  | findOrCompute key _ _ => (memo.find? key).isNone
  | findOrTryCompute key _ _ => (memo.find? key).isNone

mutual

/-- Answers a request. -/
def run : MemoRequest κ α ε → StateM (Memo κ α) (MemoReply α ε)
  | find key => do return .found ((← get).find? key)
  | findOrCompute key computation answer => do
      let stored ← wholeSlot.findOrCompute key do
        runAll computation
        return answer
      return .recalled stored
  | findOrTryCompute key computation outcome => do
      let result ← (wholeSlot.findOrTryCompute key do
        runAll computation
        MonadExcept.ofExcept outcome : ExceptT ε (StateM (Memo κ α)) α).run
      return .outcome result

/-- Answers requests in order and drops the replies. -/
def runAll : List (MemoRequest κ α ε) → StateM (Memo κ α) Unit
  | [] => pure ()
  | request :: rest => do
      discard request.run
      runAll rest

end

end MemoRequest

end EntitySql
