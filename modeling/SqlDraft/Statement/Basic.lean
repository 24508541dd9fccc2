import SqlDraft.Condition.Basic
import SqlDraft.Record.Join
import SqlDraft.Record.OrderTerm
import SqlDraft.Value.Key

/-!
# Statements

A statement holds what has been said so far about each of its clauses.  Joins and conditions only
accumulate; every other part is replaced as a whole.
-/

namespace SqlDraft

/-- A statement under construction. -/
structure Statement where
  /-- The kind, once it is set. -/
  kind : Option Kind := none
  /-- The selected fields, a text or a list; null when none are given. -/
  projection : Value := .null
  /-- The main table as given; null when none is given. -/
  table : Value := .null
  /-- The joined tables in the order of the calls. -/
  joins : List Join := []
  /-- The conditions on rows in the order of the calls. -/
  predicates : List Predicate := []
  /-- The values assigned to columns, unquoted. -/
  assignments : Entries := []
  /-- The columns to group by. -/
  grouping : List String := []
  /-- The conditions on groups in the order of the calls. -/
  having : List Having := []
  /-- The ordering. -/
  ordering : List OrderTerm := []
  /-- The greatest number of rows as given; null when there is none. -/
  limit : Value := .null
  /-- The number of skipped rows as given; null when there is none. -/
  offset : Value := .null
deriving Repr

/-- The statement about which nothing has been said. -/
def Statement.empty : Statement := {}

end SqlDraft
