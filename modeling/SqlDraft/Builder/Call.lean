import SqlDraft.Value.Basic

/-!
# Calls

A call says something about a statement.  Its arguments are values as the caller supplies them; an
argument that is left out has the value that stands for its default.
-/

namespace SqlDraft

/-- A call that configures a statement. -/
inductive Call
  | setKind (kind : Value)
  | select (fields : Value)
  | table (table : Value)
  | join (table columns operator joinType : Value)
  | filter (column value operator additive : Value)
  | values (values : Value)
  | groupBy (fields : Value)
  /-- Add conditions on groups; a value that is left out differs from null. -/
  | having (expression : Value) (value : Option Value) (additive : Value)
  | orderBy (fields directions : Value)
  | limit (value : Value)
  | offset (value : Value)
deriving Repr

namespace Call

/-- Make the statement an insertion. -/
def insert : Call := setKind (.kind .insert)

/-- Make the statement an update. -/
def update : Call := setKind (.kind .update)

/-- Make the statement a deletion. -/
def delete : Call := setKind (.kind .delete)

/-- Add a condition on rows as an alternative. -/
def orFilter (column value operator : Value) : Call := filter column value operator (.bool false)

end Call
end SqlDraft
