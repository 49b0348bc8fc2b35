/-!
# Memo tables

A memo table remembers the answer to every question it was asked.  The first
answer stored for a question stays: a later one is dropped, and whoever brings
it is given the stored one.
-/

namespace EntitySql

/-- Answers by question, without two answers to one question as long as they are
only added by `insertIfNew`. -/
structure Memo (κ α : Type) where
  entries : List (κ × α) := []

namespace Memo

variable {κ α : Type} [DecidableEq κ]

/-- The stored answer. -/
def find? (memo : Memo κ α) (key : κ) : Option α :=
  memo.entries.lookup key

/-- The number of questions answered. -/
def size (memo : Memo κ α) : Nat :=
  memo.entries.length

/-- Nothing is stored. -/
def isEmpty (memo : Memo κ α) : Bool :=
  memo.entries.isEmpty

/-- Stores an answer unless there is one. -/
def insertIfNew (memo : Memo κ α) (key : κ) (answer : α) : Memo κ α :=
  match memo.find? key with
  | some _ => memo
  | none => ⟨(key, answer) :: memo.entries⟩

/-- The stored answer, or the given one where none is stored. -/
def findD (memo : Memo κ α) (key : κ) (answer : α) : α :=
  (memo.find? key).getD answer

end Memo

/-- A memo table that is part of a larger state. -/
structure MemoSlot (σ κ α : Type) where
  read : σ → Memo κ α
  write : σ → Memo κ α → σ

namespace MemoSlot

variable {σ κ α ε : Type} [DecidableEq κ]

/-- Stores an answer and gives back the one that is stored from then on. -/
def store (slot : MemoSlot σ κ α) (key : κ) (answer : α) : StateM σ α := fun state =>
  let memo := (slot.read state).insertIfNew key answer
  (memo.findD key answer, slot.write state memo)

/-- The stored answer, or else the computed one, which is stored.  The
computation may itself change the state, and with it the table. -/
def findOrCompute (slot : MemoSlot σ κ α) (key : κ) (compute : StateM σ α) : StateM σ α := do
  match (slot.read (← get)).find? key with
  | some answer => pure answer
  | none => slot.store key (← compute)

/-- Like `findOrCompute`, for a computation that may fail.  A failure is passed on and
not stored. -/
def findOrTryCompute (slot : MemoSlot σ κ α) (key : κ) (compute : ExceptT ε (StateM σ) α) :
    ExceptT ε (StateM σ) α := do
  match (slot.read (← get)).find? key with
  | some answer => pure answer
  | none => do
      let answer ← compute
      slot.store key answer

end MemoSlot

end EntitySql
