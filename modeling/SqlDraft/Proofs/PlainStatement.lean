import SqlDraft.Proofs.Accumulation
import SqlDraft.Proofs.ClauseText
import SqlDraft.Proofs.PlainText

/-!
# Plain statements

A plain statement has simple names, operators made of signs, integers for its limit and offset, and
expressions that mention no reserved word.  Its text does not show everything: the combinator of a
first condition, the table of a join that refers to the main table anyway, blanks around selected
fields, an offset without a limit and the way in which a quoted value was given.
`Statement.canonical` makes these the same in all statements, and it does not change the text.
-/

namespace SqlDraft

/-- A join with simple names and an operator made of signs. -/
structure Join.IsPlain (join : Join) : Prop where
  table : IsName join.table
  /-- The table of the right column, if it is given. -/
  rightTable : ∀ table ∈ join.rightTable, IsName table
  leftColumn : IsName join.leftColumn
  rightColumn : IsName join.rightColumn
  operator : IsSymbolic join.operator
  joinType : IsName join.joinType

instance (join : Join) : Decidable join.IsPlain :=
  decidable_of_iff (IsName join.table ∧ (∀ table ∈ join.rightTable, IsName table) ∧
      IsName join.leftColumn ∧ IsName join.rightColumn ∧ IsSymbolic join.operator ∧
      IsName join.joinType)
    ⟨fun ⟨table, rightTable, leftColumn, rightColumn, operator, joinType⟩ =>
        ⟨table, rightTable, leftColumn, rightColumn, operator, joinType⟩,
      fun ⟨table, rightTable, leftColumn, rightColumn, operator, joinType⟩ =>
        ⟨table, rightTable, leftColumn, rightColumn, operator, joinType⟩⟩

/-- An order term with simple names; the direction may be missing. -/
structure OrderTerm.IsPlain (term : OrderTerm) : Prop where
  column : IsName term.column
  direction : term.direction = "" ∨ IsName term.direction

instance (term : OrderTerm) : Decidable term.IsPlain :=
  decidable_of_iff (IsName term.column ∧ (term.direction = "" ∨ IsName term.direction))
    ⟨fun ⟨column, direction⟩ => ⟨column, direction⟩, fun ⟨column, direction⟩ => ⟨column, direction⟩⟩

/-- A number of rows that is absent or an integer. -/
def Value.IsCount (value : Value) : Prop := value = .null ∨ ∃ number, value = .int number

/-- A statement with a kind and a main table whose names are simple. -/
structure Statement.IsPlain (engine : Engine) (statement : Statement) : Prop where
  kind : statement.kind ≠ none
  table : ∃ name, statement.table = .text name ∧ IsName name
  /-- Every selected field, once trimmed, is a simple name or the star. -/
  fields : statement.projection = .null ∨ ∀ item ∈ statement.projection.asList,
    ∃ content, item = .text content ∧ IsField (Text.trim content)
  columns : ∀ entry ∈ statement.assignments, ∃ name, entry.1 = .text name ∧ IsName name
  joins : ∀ join ∈ statement.joins, join.IsPlain
  predicates : ∀ predicate ∈ statement.predicates, IsName predicate.column
  grouping : ∀ name ∈ statement.grouping, IsName name
  having : ∀ having ∈ statement.having, engine.IsExpression having.expression
  ordering : ∀ term ∈ statement.ordering, term.IsPlain
  limit : statement.limit.IsCount
  offset : statement.offset.IsCount

namespace Statement

/-- The statement that shows in the text of a statement. -/
def canonical (statement : Statement) : Statement :=
  { statement with
    projection :=
      match statement.projection with
      | .null => .null
      | projection => .list (projection.fieldTexts.map fun field => .text (Text.trim field))
    joins := statement.joins.map fun join =>
      { join with rightTable := some (join.rightTable.getD (Join.tableText statement.table)) }
    predicates := statement.predicates.modifyHead fun first => { first with combinator := .and }
    assignments := statement.assignments.map fun entry => (entry.1, .text entry.2.content)
    having := statement.having.modifyHead fun first => { first with combinator := .and }
    offset :=
      match statement.limit with
      | .null => .null
      | _ => statement.offset }

variable {engine : Engine} {statement : Statement}

theorem trim_eq_of_isField {field : String} (isField : IsField field) : Text.trim field = field :=
  Text.trim_eq_self fun c mem => isBlank_of_isFieldCharacter (isField.characters c mem)

/-- Selected fields of a plain statement. -/
structure HasFields (statement : Statement) : Prop where
  kind : statement.kind = some .select
  given : statement.projection ≠ .null
  truthy : statement.projection.isTruthy = true
  /-- There are texts among the fields. -/
  nonempty : statement.projection.fieldTexts ≠ []
  /-- The texts are simple names or stars. -/
  plain : ∀ field ∈ statement.projection.fieldTexts, IsField (Text.trim field)
  /-- Nothing but texts is selected. -/
  rendered : Clause.fields statement.projection =
    .ok (Value.commaSeparated (statement.projection.fieldTexts.map Text.trim))

theorem HasFields.of_text (kind : statement.kind = some .select) {content : String}
    (given : statement.projection = .text content) (nonempty : content ≠ "")
    (isField : IsField (Text.trim content)) : statement.HasFields := by
  refine ⟨kind, by simp [given], by simpa [given, Value.isTruthy] using nonempty, ?_, ?_, ?_⟩
  · simp [given, Value.fieldTexts, Value.asText?]
  · simpa [given, Value.fieldTexts, Value.asText?] using isField
  · simp [given, Clause.fields, Value.fieldTexts, Value.asText?, Value.commaSeparated]

theorem HasFields.of_list (kind : statement.kind = some .select) {contents : List String}
    (given : statement.projection = .list (contents.map Value.text)) (nonempty : contents ≠ [])
    (areFields : ∀ content ∈ contents, IsField (Text.trim content)) : statement.HasFields := by
  have texts : statement.projection.fieldTexts = contents := by
    rw [given, Value.fieldTexts_map_text]
  refine ⟨kind, by simp [given], by simpa [given, Value.isTruthy] using nonempty, ?_, ?_, ?_⟩
  · rwa [texts]
  · rwa [texts]
  · rw [texts, given]
    exact Clause.fields_map_text contents

/-- Selected fields of a plain statement are not given, or they are one text or several. -/
theorem projection_cases (coherent : statement.Coherent) (plain : statement.IsPlain engine) :
    statement.projection = .null ∨ statement.HasFields := by
  rcases coherent.projection with null | ⟨select, selection⟩
  · exact .inl null
  rcases plain.fields with null | fields
  · exact .inl null
  right
  cases given : statement.projection with
  | text content =>
      rw [given] at selection fields
      obtain ⟨held, shown, isField⟩ := fields _ List.mem_cons_self
      obtain rfl : content = held := by simpa using shown
      cases selection with
      | text _ nonempty => exact .of_text select given nonempty isField
  | list items =>
      rw [given] at selection fields
      have texts : (Value.textsOf items).map Value.text = items :=
        Value.map_text_textsOf fun item mem => (fields item mem).imp fun content shown => shown.1
      have nonempty : Value.textsOf items ≠ [] := by
        intro empty
        rw [empty] at texts
        cases selection with
        | list _ nonempty => exact nonempty texts.symm
      refine .of_list select (by rw [texts, given]) nonempty fun content mem => ?_
      obtain ⟨item, itemMem, shown⟩ := List.mem_filterMap.mp mem
      obtain ⟨held, rfl, isField⟩ := fields item itemMem
      obtain rfl : held = content := by simpa [Value.asText?] using shown
      exact isField
  | _ =>
      rw [given] at selection
      cases selection

theorem canonical_projection (given : statement.projection ≠ .null) :
    statement.canonical.projection =
      .list (statement.projection.fieldTexts.map fun field => .text (Text.trim field)) := by
  unfold canonical
  split
  · exact absurd (by assumption) given
  · rfl

theorem projectionText_canonical (coherent : statement.Coherent)
    (plain : statement.IsPlain engine) :
    statement.canonical.projectionText = statement.projectionText := by
  rcases statement.projection_cases coherent plain with null | fields
  · simp [projectionText, canonical, null]
  · have kind : statement.canonical.kind = some .select := fields.kind
    have texts : statement.canonical.projection.fieldTexts =
        statement.projection.fieldTexts.map Text.trim := by
      rw [canonical_projection fields.given, ← Value.fieldTexts_map_text
        (statement.projection.fieldTexts.map Text.trim), List.map_map]
      rfl
    have trimmed : (statement.projection.fieldTexts.map Text.trim).map Text.trim =
        statement.projection.fieldTexts.map Text.trim := by
      rw [List.map_map]
      exact List.map_congr_left fun field mem => trim_eq_of_isField (fields.plain field mem)
    have truthy : statement.canonical.projection.isTruthy = true := by
      rw [canonical_projection fields.given]
      simpa [Value.isTruthy] using fields.nonempty
    unfold projectionText
    rw [if_pos ⟨kind, truthy⟩, if_pos ⟨fields.kind, fields.truthy⟩, texts, trimmed]

theorem assignmentText_canonical (quote : String → String) (statement : Statement) :
    statement.canonical.assignmentText quote = statement.assignmentText quote := by
  have keys (assignments : Entries) :
      Entries.keys (assignments.map fun entry => (entry.1, .text entry.2.content)) =
        assignments.keys := by
    simp [Entries.keys, Function.comp_def]
  have kept (content : String) : (Value.text content).content = content := rfl
  unfold assignmentText canonical
  cases statement.assignments with
  | nil => rfl
  | cons entry entries =>
      rcases statement.kind with _ | kind
      · rfl
      · cases kind with
        | insert =>
            have insertion := keys (entry :: entries)
            simp only [List.map_cons] at insertion
            simp [insertionText, insertion, kept, Function.comp_def]
        | update => simp [updateText, kept, Function.comp_def]
        | select | delete => rfl

theorem clauseTexts_canonical (quote : String → String) (coherent : statement.Coherent)
    (plain : statement.IsPlain engine) :
    statement.canonical.clauseTexts quote = statement.clauseTexts quote := by
  have joins : (statement.canonical.joins.map fun join =>
      some (join.render statement.canonical.table)) =
        statement.joins.map fun join => some (join.render statement.table) := by
    simp [canonical, Join.render, Function.comp_def]
  have filter : Clause.filter statement.canonical = Clause.filter statement := by
    unfold Clause.filter canonical
    cases statement.predicates <;> rfl
  have having : Clause.having statement.canonical = Clause.having statement := by
    unfold Clause.having canonical
    cases statement.having <;> rfl
  have pagination : Clause.pagination statement.canonical = Clause.pagination statement := by
    unfold Clause.pagination canonical
    cases statement.limit <;> rfl
  unfold clauseTexts
  rw [projectionText_canonical coherent plain, assignmentText_canonical, joins, filter, having,
    pagination]
  rfl

theorem assemble_of_isPlain (coherent : statement.Coherent) (plain : statement.IsPlain engine) :
    statement.assemble engine.quoter = .ok (layOut (statement.clauseTexts engine.quote)) := by
  suffices ∃ sql, statement.assemble engine.quoter = .ok sql by
    obtain ⟨sql, assembled⟩ := this
    rw [assembled, assemble_eq_ok engine.computes_quoter assembled]
  have projection : ∃ clause, Clause.projection statement = .ok clause := by
    unfold Clause.projection
    split
    · rename_i shown
      rcases statement.projection_cases coherent plain with null | fields
      · rw [null] at shown
        cases shown.2
      · exact ⟨_, by rw [fields.rendered]; rfl⟩
    · exact ⟨none, rfl⟩
  have assignment : ∃ clause, Clause.assignment engine.quoter statement = .ok clause := by
    rw [Template.assignment_eq engine.computes_quoter]
    have keys : (Value.textsOf statement.assignments.keys).map Value.text =
        statement.assignments.keys := by
      apply Value.map_text_textsOf
      intro key mem
      obtain ⟨entry, entryMem, rfl⟩ := List.mem_map.mp mem
      exact (plain.columns entry entryMem).imp fun name named => named.1
    have columns := Value.textsFrom_map_text 0 (Value.textsOf statement.assignments.keys)
    rw [keys] at columns
    unfold Template.assignment
    split
    · exact ⟨_, rfl⟩
    · rw [Template.insertion, Value.texts, columns]
      exact ⟨_, rfl⟩
    · exact ⟨_, rfl⟩
    · exact ⟨_, rfl⟩
  obtain ⟨projection, projected⟩ := projection
  obtain ⟨assignment, assigned⟩ := assignment
  exact ⟨_, by rw [assemble, clauses, projected, assigned]; rfl⟩

end Statement
end SqlDraft
