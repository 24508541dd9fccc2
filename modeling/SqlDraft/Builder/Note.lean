import SqlDraft.Value.Display

/-!
# Notes

A builder notes the calls that it rejects and the texts that it assembles.
-/

namespace SqlDraft

/-- What a builder notes. -/
inductive Note
  /-- A kind is requested though one is set. -/
  | rejectedKind (requested current : Kind)
  /-- Values are assigned in a statement whose kind, if it is set, takes none. -/
  | rejectedValues (kind : Option Kind)
  /-- A text is assembled. -/
  | assembled (sql : String)
deriving DecidableEq, Repr

/-- The name of a kind, or null if it is not set. -/
def Kind.nameOrNull : Option Kind → Value
  | none => .null
  | some kind => .text kind.name

/-- The text of a note. -/
def Note.message : Note → String
  | rejectedKind requested current =>
      "Rejected kind " ++ requested.name ++ ": already " ++ current.name
  | rejectedValues kind => "Rejected values() for kind " ++ (Kind.nameOrNull kind).display
  | assembled sql => "Assembled SQL: " ++ sql

end SqlDraft
