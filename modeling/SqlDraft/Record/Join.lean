import SqlDraft.Record.Options

/-!
# Joins

A join names a table and compares one of its columns with a column of another table.  Without a
table of its own for the second column it refers to the main table of the statement, whatever that
is when the statement is rendered.
-/

namespace SqlDraft

/-- One joined table. -/
structure Join where
  /-- The joined table, which also qualifies the left column. -/
  table : String
  /-- The table of the right column; none means the main table. -/
  rightTable : Option String
  /-- The column of the joined table. -/
  leftColumn : String
  /-- The column of the other table. -/
  rightColumn : String
  /-- The comparison between the columns. -/
  operator : String
  /-- The keyword in front of `JOIN`. -/
  joinType : String
deriving DecidableEq, Repr

namespace Join

/-- The fields of a join, in the order in which they are checked. -/
def declared : List String :=
  ["table", "right_table", "left_column", "right_column", "operator", "join_type"]

/-- Check the values given for the fields of a join. -/
def check (table : Option Value) (rightTable leftColumn rightColumn operator joinType : Value) :
    Checked Join :=
  (((((Checked.apply (.ok mk) (Field.require Field.readText "table" table)).apply
    (Field.check Field.readOptionalText "right_table" rightTable)).apply
    (Field.check Field.readText "left_column" leftColumn)).apply
    (Field.check Field.readText "right_column" rightColumn)).apply
    (Field.check Field.readText "operator" operator)).apply
    (Field.check Field.readText "join_type" joinType)

/-- A join made from the fields given. -/
def ofFields (fields : Fields) : Except Failure Join :=
  let checked :=
    check (fields.get? "table") (fields.getD "right_table" .null)
      (fields.getD "left_column" (.text "")) (fields.getD "right_column" (.text ""))
      (fields.getD "operator" (.text "=")) (fields.getD "join_type" (.text "INNER"))
  (checked.except (fields.undeclared declared)).outcome .join

/-- The text of a table name; a name that counts as false is empty. -/
def tableText (table : Value) : String := (table.orElse (.text "")).display

/-- The clause of a join in a statement with the given main table. -/
def render (join : Join) (mainTable : Value) : String :=
  let rightTable := join.rightTable.getD (tableText mainTable)
  join.joinType ++ " JOIN " ++ join.table ++ " ON " ++ join.table ++ "." ++ join.leftColumn ++ " " ++
    join.operator ++ " " ++ rightTable ++ "." ++ join.rightColumn

/-- The tables that a value names: a text is the joined table alone, and of a sequence the first
item is the joined table and the last of several the other one. -/
def tables (value : Value) : Except Failure (Value × Value) :=
  match value.asText?, value.items? with
  | some table, _ => .ok (.text table, .null)
  | none, none => .error (.notIterable value.typeName)
  | none, some [] => .ok (.text "", .null)
  | none, some [table] => .ok (table, .null)
  | none, some (table :: other :: rest) => .ok (table, (other :: rest).getLast (by simp))

/-- The columns that a list or tuple names; what it does not name is empty. -/
def columns : Value → String × String
  | .list (left :: right :: _) | .tuple (left :: right :: _) => (left.display, right.display)
  | .list [left] | .tuple [left] => (left.display, "")
  | _ => ("", "")

/-- The join of a table, with the defaults of the options. -/
def make (options : Options) (table columns operator joinType : Value) : Except Failure Join := do
  let (own, other) ← tables table
  let (left, right) := Join.columns columns
  (check (some own) other (.text left) (.text right) (Options.orDefault options.defaultOperator operator)
    (Options.orDefault options.defaultJoinType joinType)).outcome .join

end Join
end SqlDraft
