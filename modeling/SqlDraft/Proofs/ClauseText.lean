import SqlDraft.Proofs.Template

/-!
# Clauses in closed form

Clauses can fail because selected fields or assigned columns are no texts.  When they do not fail
and the quoter never fails, every clause is given by the texts in the statement:
`Statement.assemble` lays out `Statement.clauseTexts`.
-/

namespace SqlDraft

namespace Value

variable {items : List Value}

/-- The texts among some items. -/
def textsOf (items : List Value) : List String := items.filterMap asText?

theorem textsFrom_eq_ok {position : Nat} {contents : List String}
    (read : textsFrom position items = .ok contents) : contents = textsOf items := by
  induction items generalizing position contents with
  | nil =>
      obtain rfl : [] = contents := by simpa [textsFrom] using read
      rfl
  | cons item items ih =>
      unfold textsFrom at read
      split at read
      · cases read
      · rename_i content shown
        cases rest : textsFrom (position + 1) items with
        | error failure => simp [rest, Except.map] at read
        | ok found =>
            obtain rfl : content :: found = contents := by simpa [rest, Except.map] using read
            simp [textsOf, shown, ih rest]

/-- Texts are all that is left of items that are texts. -/
theorem map_text_textsOf (each : ∀ item ∈ items, ∃ content, item = text content) :
    (textsOf items).map text = items := by
  induction items with
  | nil => rfl
  | cons item items ih =>
      obtain ⟨⟨content, rfl⟩, rest⟩ := List.forall_mem_cons.mp each
      have split : textsOf (text content :: items) = content :: textsOf items := rfl
      rw [split, List.map_cons, ih rest]

theorem asText?_of_trimmed {value result : Value} (read : value.trimmed = .ok result) :
    result.asText? = value.asText?.map Text.trim := by
  unfold trimmed at read
  split at read
  · obtain rfl := Except.ok.inj read
    rfl
  · split at read
    · rename_i content shown
      obtain rfl := Except.ok.inj read
      rw [shown]
      rfl
    · cases read

theorem textsOf_of_trimmed {results : List Value} (read : items.mapM trimmed = .ok results) :
    textsOf results = (textsOf items).map Text.trim := by
  induction items generalizing results with
  | nil =>
      obtain rfl : [] = results := by simpa [pure, Except.pure] using read
      rfl
  | cons item items ih =>
      rw [List.mapM_cons] at read
      cases first : item.trimmed with
      | error failure => simp [first, bind, Except.bind] at read
      | ok result =>
          cases rest : items.mapM trimmed with
          | error failure => simp [first, rest, bind, Except.bind] at read
          | ok found =>
              obtain rfl : result :: found = results := by
                simpa [first, rest, bind, Except.bind, pure, Except.pure] using read
              have head := asText?_of_trimmed first
              have tail := ih rest
              unfold textsOf at tail ⊢
              cases shown : item.asText? <;> simp_all

/-- The texts that a value holds as selected fields. -/
def fieldTexts (projection : Value) : List String :=
  projection.asText?.elim (textsOf (projection.items?.getD [])) fun content => [content]

theorem fieldTexts_map_text (contents : List String) :
    (list (contents.map text)).fieldTexts = contents := by
  simp [fieldTexts, asText?, items?, textsOf, List.filterMap_map, Function.comp_def]

end Value

namespace Clause

theorem fields_eq_ok {projection : Value} {sql : String} (rendered : fields projection = .ok sql) :
    sql = Value.commaSeparated (projection.fieldTexts.map Text.trim) := by
  unfold fields at rendered
  unfold Value.fieldTexts
  cases shown : projection.asText? with
  | some content =>
      obtain rfl : Text.trim content = sql := by simpa [shown] using rendered
      simp [Value.commaSeparated]
  | none =>
      cases found : projection.items? with
      | none => simp [shown, found] at rendered
      | some items =>
          simp only [shown, found] at rendered
          cases each : items.mapM Value.trimmed with
          | error failure => simp [each, bind, Except.bind] at rendered
          | ok trimmed =>
              cases read : Value.texts trimmed with
              | error failure => simp [each, read, bind, Except.bind, Except.map] at rendered
              | ok contents =>
                  obtain rfl : Value.commaSeparated contents = sql := by
                    simpa [each, read, bind, Except.bind, Except.map] using rendered
                  rw [Value.textsFrom_eq_ok read, Value.textsOf_of_trimmed each]
                  rfl

theorem fields_map_text (contents : List String) :
    fields (.list (contents.map Value.text)) =
      .ok (Value.commaSeparated (contents.map Text.trim)) := by
  have each : (contents.map Value.text).mapM Value.trimmed =
      .ok ((contents.map Text.trim).map Value.text) := by
    rw [List.mapM_map, List.map_map]
    exact mapM_ok _ contents
  simp only [fields, Value.asText?, Value.items?, each, bind, Except.bind, Value.texts,
    Value.textsFrom_map_text]
  rfl

end Clause

namespace Statement

/-- The selected fields of a selection. -/
def projectionText (statement : Statement) : Option String :=
  if statement.kind = some .select ∧ statement.projection.isTruthy = true then
    some (Value.commaSeparated (statement.projection.fieldTexts.map Text.trim))
  else
    none

/-- The main table, behind `FROM` if the kind reads rows. -/
def tableText (statement : Statement) : Option String :=
  statement.kind.map fun kind =>
    (if kind.readsFrom then "FROM " else "") ++ Join.tableText statement.table

/-- The columns and the values of an insertion. -/
def insertionText (quote : String → String) (assignments : Entries) : String :=
  "(" ++ Value.commaSeparated (Value.textsOf assignments.keys) ++ ") VALUES (" ++
    Value.commaSeparated (assignments.map fun entry => quote entry.2.content) ++ ")"

/-- The assigned columns of an update. -/
def updateText (quote : String → String) (assignments : Entries) : String :=
  "SET " ++ Value.commaSeparated
    (assignments.map fun entry => entry.1.display ++ " = " ++ quote entry.2.content)

/-- The assigned columns of an insertion or an update. -/
def assignmentText (quote : String → String) (statement : Statement) : Option String :=
  match statement.assignments, statement.kind with
  | [], _ => none
  | assignments, some .insert => some (insertionText quote assignments)
  | assignments, some .update => some (updateText quote assignments)
  | _, _ => none

/-- The clauses of a statement, absent ones included. -/
def clauseTexts (quote : String → String) (statement : Statement) : List (Option String) :=
  [Clause.kind statement, statement.projectionText, statement.tableText,
      statement.assignmentText quote] ++
    (statement.joins.map fun join => some (join.render statement.table)) ++
    [Clause.filter statement, Clause.groupBy statement.grouping, Clause.having statement,
      Clause.orderBy statement.ordering, Clause.pagination statement]

variable {statement : Statement} {quoter : Quoter} {quote : String → String}

theorem projection_eq_ok {clause : Option String}
    (rendered : Clause.projection statement = .ok clause) : clause = statement.projectionText := by
  unfold Clause.projection at rendered
  unfold projectionText
  split at rendered
  · cases read : Clause.fields statement.projection with
    | error failure => simp [read, Except.map] at rendered
    | ok sql =>
        obtain rfl : some sql = clause := by simpa [read, Except.map] using rendered
        rw [if_pos (by assumption), Clause.fields_eq_ok read]
  · rw [if_neg (by assumption)]
    exact (Except.ok.inj rendered).symm

theorem map_display_table : (Clause.table statement).map Value.display = statement.tableText := by
  unfold Clause.table tableText Join.tableText
  cases statement.kind with
  | none => rfl
  | some kind => cases kind <;> simp [Kind.readsFrom, Value.display]

theorem assignment_eq_ok (computes : quoter.Computes quote) {clause : Option String}
    (rendered : Clause.assignment quoter statement = .ok clause) :
    clause = statement.assignmentText quote := by
  rw [Template.assignment_eq computes] at rendered
  unfold Template.assignment at rendered
  unfold assignmentText
  split at rendered
  · obtain rfl : none = clause := by simpa [Except.map] using rendered
    simp_all
  · rename_i kind
    cases read : Value.texts statement.assignments.keys with
    | error failure => simp [Template.insertion, read, bind, Except.bind, Except.map] at rendered
    | ok columns =>
        obtain rfl := Value.textsFrom_eq_ok read
        obtain rfl : some (insertionText quote statement.assignments) = clause := by
          simpa [Template.insertion, read, bind, Except.bind, Except.map, insertionText,
            Value.commaSeparated, Function.comp_def, Piece.fill, String.append_assoc] using rendered
        simp_all
  · rename_i kind
    obtain rfl : some (updateText quote statement.assignments) = clause := by
      simpa [Template.assigned, Except.map, updateText, Value.commaSeparated, Function.comp_def,
        Piece.fill, String.append_assoc] using rendered
    simp_all
  · obtain rfl : none = clause := by simpa [Except.map] using rendered
    simp_all

/-- The text of a statement consists of its clauses. -/
theorem assemble_eq_ok (computes : quoter.Computes quote) {sql : String}
    (assembled : statement.assemble quoter = .ok sql) :
    sql = layOut (statement.clauseTexts quote) := by
  unfold assemble clauses at assembled
  cases projected : Clause.projection statement with
  | error failure => simp [projected, bind, Except.bind, Except.map] at assembled
  | ok projection =>
      cases assigned : Clause.assignment quoter statement with
      | error failure => simp [projected, assigned, bind, Except.bind, Except.map] at assembled
      | ok assignment =>
          rw [projected, assigned] at assembled
          obtain rfl := Except.ok.inj assembled
          rw [projection_eq_ok projected, assignment_eq_ok computes assigned, map_display_table]
          rfl

end Statement
end SqlDraft
