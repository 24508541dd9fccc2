import SqlDraft.Statement.Clause

/-!
# Assembly

The text of a statement consists of its clauses in a fixed order.  Every clause that is present is
followed by one space, and the blanks at the end are removed once.
-/

namespace SqlDraft
namespace Statement

/-- The clauses of a statement in the order of its text, absent ones included. -/
def clauses (quoter : Quoter) (statement : Statement) : Except Failure (List (Option String)) := do
  let projection ← Clause.projection statement
  let assignment ← Clause.assignment quoter statement
  .ok ([Clause.kind statement, projection, (Clause.table statement).map Value.display, assignment] ++
    (statement.joins.map fun join => some (join.render statement.table)) ++
    [Clause.filter statement, Clause.groupBy statement.grouping, Clause.having statement,
      Clause.orderBy statement.ordering, Clause.pagination statement])

/-- The clauses that are present, each followed by a space, without the blanks at the end. -/
def layOut (clauses : List (Option String)) : String :=
  Text.trimEnd (String.join ((clauses.filterMap id).map fun clause => clause ++ " "))

/-- The text of a statement. -/
def assemble (quoter : Quoter) (statement : Statement) : Except Failure String :=
  (statement.clauses quoter).map layOut

end Statement
end SqlDraft
