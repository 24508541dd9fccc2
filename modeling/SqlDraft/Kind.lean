/-!
# Statement kinds

A statement reads, inserts, updates or deletes rows.  Its kind decides the leading keyword, whether
`FROM` introduces the table, and whether columns are assigned.
-/

namespace SqlDraft

/-- What a statement does. -/
inductive Kind
  | select
  | insert
  | update
  | delete
deriving DecidableEq, Repr

namespace Kind

/-- All kinds. -/
def all : List Kind := [select, insert, update, delete]

/-- The name by which a kind is requested and reported. -/
def name : Kind → String
  | select => "SELECT"
  | insert => "INSERT"
  | update => "UPDATE"
  | delete => "DELETE"

/-- The keywords that open a statement. -/
def keyword : Kind → String
  | insert => "INSERT INTO"
  | kind => kind.name

/-- `FROM` introduces the table. -/
def readsFrom : Kind → Bool
  | select | delete => true
  | insert | update => false

/-- Columns are assigned. -/
def assigns : Kind → Bool
  | insert | update => true
  | select | delete => false

/-- The kind with a given name. -/
def ofName? (name : String) : Option Kind := all.find? fun kind => kind.name == name

@[simp]
theorem ofName?_name (kind : Kind) : ofName? kind.name = some kind := by
  cases kind <;> decide

end Kind
end SqlDraft
