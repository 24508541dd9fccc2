import SqlDraft.Record.Field

/-!
# Order terms

An order term is a column and a direction.  The empty direction leaves the order to the engine.
-/

namespace SqlDraft

/-- One column of the ordering. -/
structure OrderTerm where
  /-- The column to order by. -/
  column : String
  /-- The direction; it may be empty. -/
  direction : String
deriving DecidableEq, Repr

namespace OrderTerm

/-- The fields of an order term, in the order in which they are checked. -/
def declared : List String := ["column", "direction"]

/-- Check the values given for the fields of an order term. -/
def check (column : Option Value) (direction : Value) : Checked OrderTerm :=
  (Checked.apply (.ok mk) (Field.require Field.readText "column" column)).apply
    (Field.check Field.readText "direction" direction)

/-- An order term made from the fields given. -/
def ofFields (fields : Fields) : Except Failure OrderTerm :=
  let checked := check (fields.get? "column") (fields.getD "direction" (.text ""))
  (checked.except (fields.undeclared declared)).outcome .orderTerm

/-- The text of an order term. -/
def render (term : OrderTerm) : String :=
  if term.direction.isEmpty then term.column else term.column ++ " " ++ term.direction

/-- The terms for columns and directions, which pair by position; what is left over on either side
is dropped, and a direction that counts as false is empty. -/
def make (fields directions : Value) : Except Failure (List OrderTerm) :=
  (fields.asList.zip directions.asList).mapM fun (field, direction) =>
    (check (some (.text field.display)) (direction.orElse (.text ""))).outcome .orderTerm

end OrderTerm
end SqlDraft
