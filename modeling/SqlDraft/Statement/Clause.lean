import SqlDraft.Quoter.Basic
import SqlDraft.Record.Basic
import SqlDraft.Statement.Basic
import SqlDraft.Text.Blank

/-!
# Clauses

Every clause of a statement has its own text, or none when it is absent.  The text of a clause that
is present may be empty in part: a missing name leaves its place empty.
-/

namespace SqlDraft

namespace Value

/-- The texts of the items of a sequence, the first of which has the given position. -/
def textsFrom (position : Nat) : List Value → Except Failure (List String)
  | [] => .ok []
  | item :: items =>
      match item.asText? with
      | none => .error (.itemNotText position item.typeName)
      | some content => (textsFrom (position + 1) items).map (content :: ·)

/-- The texts of the items of a sequence that is to be joined. -/
def texts (items : List Value) : Except Failure (List String) := textsFrom 0 items

/-- A text without the blanks at its ends.  Bytes can be trimmed, but they do not become a text. -/
def trimmed : Value → Except Failure Value
  | bytes content => .ok (bytes content)
  | value =>
      match value.asText? with
      | some content => .ok (text (Text.trim content))
      | none => .error (.lacks value.typeName "strip")

/-- The names in a value that is joined as it stands; a value that counts as false has none. -/
def names (value : Value) : Except Failure (List String) :=
  if value.isTruthy then
    match value.items? with
    | some items => texts items
    | none => .error .notJoinable
  else
    .ok []

end Value

namespace Clause

/-- The keywords that open a statement. -/
def kind (statement : Statement) : Option String := statement.kind.map Kind.keyword

/-- Selected fields as a text: a text is trimmed, and a sequence of texts is trimmed item by item
and joined. -/
def fields (projection : Value) : Except Failure String :=
  match projection.asText?, projection.items? with
  | some content, _ => .ok (Text.trim content)
  | none, none => .error (.notIterable projection.typeName)
  | none, some items => do
      let trimmed ← items.mapM Value.trimmed
      (Value.texts trimmed).map Value.commaSeparated

/-- The field list, which only a selection has. -/
def projection (statement : Statement) : Except Failure (Option String) :=
  if statement.kind = some .select ∧ statement.projection.isTruthy = true then
    (fields statement.projection).map some
  else
    .ok none

/-- The main table, behind `FROM` if the kind reads rows.  A table that stands alone is kept as it
was given. -/
def table (statement : Statement) : Option Value :=
  statement.kind.map fun kind =>
    let table := statement.table.orElse (.text "")
    if kind.readsFrom then .text ("FROM " ++ table.display) else table

/-- The columns and the values of an insertion. -/
def insertion (quoter : Quoter) (assignments : Entries) : Except Failure String := do
  let columns ← Value.texts assignments.keys
  let literals ← assignments.mapM fun entry => quoter.quote entry.2
  let values ← Value.texts literals
  .ok ("(" ++ Value.commaSeparated columns ++ ") VALUES (" ++ Value.commaSeparated values ++ ")")

/-- One assigned column of an update. -/
def assigned (quoter : Quoter) (entry : Value × Value) : Except Failure String :=
  (quoter.quote entry.2).map fun literal => entry.1.display ++ " = " ++ literal.display

/-- The assigned columns of an insertion or an update. -/
def assignment (quoter : Quoter) (statement : Statement) : Except Failure (Option String) :=
  match statement.assignments, statement.kind with
  | [], _ => .ok none
  | assignments, some .insert => (insertion quoter assignments).map some
  | assignments, some .update => do
      let pairs ← assignments.mapM (assigned quoter)
      .ok (some ("SET " ++ Value.commaSeparated pairs))
  | _, _ => .ok none

/-- The assigned columns when anything may stand in the place of a dictionary.  Whatever counts as
false assigns nothing, and only a dictionary has values. -/
def assignmentOf (quoter : Quoter) (kind : Option Kind) :
    Value → Except Failure (Option String)
  | .dict assignments => assignment quoter { kind, assignments }
  | value =>
      match value.isTruthy, kind with
      | true, some .insert => do
          let _ ← value.names
          .error (.lacks value.typeName "values")
      | true, some .update => .error (.lacks value.typeName "items")
      | _, _ => .ok none

/-- Conditions behind a keyword, each but the first behind its combinator. -/
def condition (keyword : String) : List Condition → Option String
  | [] => none
  | first :: rest =>
      some (" ".intercalate (keyword :: first.text :: rest.map Condition.connected))

/-- Records as conditions behind a keyword.  Every record needs a text, and every record but the
first a combinator. -/
def conditionOf (keyword : String) : List Record → Except Failure (Option String)
  | [] => .ok none
  | first :: rest => do
      let text ← first.text
      let conditions ← rest.mapM Record.condition
      .ok (some (" ".intercalate (keyword :: text :: conditions.map Condition.connected)))

/-- The conditions on rows. -/
def filter (statement : Statement) : Option String :=
  condition "WHERE" (statement.predicates.map Predicate.condition)

/-- The conditions on groups. -/
def having (statement : Statement) : Option String :=
  condition "HAVING" (statement.having.map Having.condition)

/-- Names behind a keyword, if there are any. -/
def listing (keyword : String) (names : List String) : Option String :=
  if names.isEmpty then none else some (keyword ++ " " ++ Value.commaSeparated names)

/-- The columns to group by. -/
def groupBy (names : List String) : Option String := listing "GROUP BY" names

/-- The ordering. -/
def orderBy (terms : List OrderTerm) : Option String :=
  listing "ORDER BY" (terms.map OrderTerm.render)

/-- The limit, and behind it the offset; without a limit there is no offset. -/
def pagination (statement : Statement) : Option String :=
  match statement.limit, statement.offset with
  | .null, _ => none
  | limit, .null => some ("LIMIT " ++ limit.display)
  | limit, offset => some ("LIMIT " ++ limit.display ++ " OFFSET " ++ offset.display)

end Clause
end SqlDraft
