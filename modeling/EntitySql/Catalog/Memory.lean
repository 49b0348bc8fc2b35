import EntitySql.Conventions.Basic
import EntitySql.Event
import EntitySql.Memo.Basic

/-!
# What a registry remembers

Names, roles and statements are worked out once.  The memory keeps them, by
dialect where spelling depends on it, and collects the events.
-/

namespace EntitySql

/-- The column names of properties are remembered by dialect, entity and
property. -/
structure ColumnKey where
  dialect : String
  path : String
  property : String
  deriving DecidableEq

/-- The memory of a registry. -/
structure Memory where
  /-- Table names by dialect and entity. -/
  tables : Memo (String × String) String := {}
  columns : Memo ColumnKey String := {}
  /-- Keys by entity. -/
  keys : Memo String (List KeyProperty) := {}
  /-- Mapped properties by entity. -/
  mapped : Memo String (List Property) := {}
  /-- Links by source and related entity. -/
  foreignKeys : Memo (String × String) ForeignKey := {}
  statements : Memo StatementKey String := {}
  /-- The events so far, the last one first. -/
  events : List Event := []

namespace Memory

/-- The table names. -/
def tableSlot : MemoSlot Memory (String × String) String where
  read memory := memory.tables
  write memory tables := { memory with tables }

/-- The column names. -/
def columnSlot : MemoSlot Memory ColumnKey String where
  read memory := memory.columns
  write memory columns := { memory with columns }

/-- The keys. -/
def keySlot : MemoSlot Memory String (List KeyProperty) where
  read memory := memory.keys
  write memory keys := { memory with keys }

/-- The mapped properties. -/
def mappedSlot : MemoSlot Memory String (List Property) where
  read memory := memory.mapped
  write memory mapped := { memory with mapped }

/-- The links. -/
def foreignKeySlot : MemoSlot Memory (String × String) ForeignKey where
  read memory := memory.foreignKeys
  write memory foreignKeys := { memory with foreignKeys }

/-- The statements. -/
def statementSlot : MemoSlot Memory StatementKey String where
  read memory := memory.statements
  write memory statements := { memory with statements }

/-- Adds an event. -/
def record (event : Event) (memory : Memory) : Memory :=
  { memory with events := event :: memory.events }

/-- The memory without its events, and those events in order. -/
def takeEvents (memory : Memory) : List Event × Memory :=
  (memory.events.reverse, { memory with events := [] })

end Memory

/-- Work that uses the memory and cannot fail. -/
abbrev Recall (α : Type) := StateM Memory α

/-- Work that uses the memory and may fail.  A failure leaves the memory as it
is by then. -/
abbrev Attempt (α : Type) := ExceptT Failure (StateM Memory) α

/-- Leaves an event behind. -/
def Recall.emit (event : Event) : Recall Unit :=
  modify (Memory.record event)

end EntitySql
