import Mathlib.Data.List.Forall2
import SqlDraft.Proofs.ClauseText
import SqlDraft.Proofs.Kind
import SqlDraft.Proofs.Literal
import SqlDraft.Proofs.NumberText

/-!
# Literals of clauses

Only the assigned columns and the conditions of a statement have literals, as long as the names and
the other texts of the statement have no quotes.  The literals of a clause are those of its parts in
their order, and the literals of a statement are those of its clauses.
-/

namespace SqlDraft

/-- The texts of a join. -/
def Join.texts (join : Join) : List String :=
  [join.table, join.leftColumn, join.rightColumn, join.operator, join.joinType] ++
    join.rightTable.toList

/-- The names, operators and other texts of a statement have no single quotes.  Nothing is said
about the values that are assigned or compared with, and nothing about the conditions on groups. -/
structure Statement.QuoteFree (statement : Statement) : Prop where
  fields : ∀ field ∈ statement.projection.fieldTexts, SqlDraft.QuoteFree field
  table : SqlDraft.QuoteFree statement.table.display
  columns : ∀ entry ∈ statement.assignments, SqlDraft.QuoteFree entry.1.display
  joins : ∀ join ∈ statement.joins, ∀ text ∈ join.texts, SqlDraft.QuoteFree text
  predicates : ∀ predicate ∈ statement.predicates,
    SqlDraft.QuoteFree predicate.column ∧ SqlDraft.QuoteFree predicate.operator
  grouping : ∀ name ∈ statement.grouping, SqlDraft.QuoteFree name
  ordering : ∀ term ∈ statement.ordering,
    SqlDraft.QuoteFree term.column ∧ SqlDraft.QuoteFree term.direction
  limit : SqlDraft.QuoteFree statement.limit.display
  offset : SqlDraft.QuoteFree statement.offset.display

namespace QuoteFree

theorem of_subset {text other : String} (free : QuoteFree other)
    (subset : text.toList ⊆ other.toList) : QuoteFree text :=
  fun quote => free (subset quote)

theorem trim {text : String} (free : QuoteFree text) : QuoteFree (Text.trim text) := by
  apply free.of_subset
  obtain ⟨before, behind, split, -⟩ := Text.exists_stripWhile Text.isBlank text.toList
  rw [Text.toList_trim]
  intro c mem
  rw [split]
  simp [mem]

theorem commaSeparated {items : List String} (each : ∀ item ∈ items, QuoteFree item) :
    QuoteFree (Value.commaSeparated items) :=
  intercalate (by decide) each

theorem of_asText? {value : Value} {content : String} (free : QuoteFree value.display)
    (shown : value.asText? = some content) : QuoteFree content := by
  cases value with
  | text held =>
      obtain rfl : held = content := by simpa [Value.asText?] using shown
      exact free
  | kind which =>
      obtain rfl : which.name = content := by simpa [Value.asText?] using shown
      cases which <;> decide
  | _ => simp [Value.asText?] at shown

theorem tableText {table : Value} (free : QuoteFree table.display) :
    QuoteFree (Join.tableText table) := by
  unfold Join.tableText Value.orElse
  split
  · exact free
  · decide

theorem listing {keyword : String} (before : QuoteFree keyword) {names : List String}
    (each : ∀ name ∈ names, QuoteFree name) {clause : String}
    (present : Clause.listing keyword names = some clause) : QuoteFree clause := by
  unfold Clause.listing at present
  split at present
  · cases present
  · obtain rfl := Option.some.inj present
    exact (before.append (by decide)).append (commaSeparated each)

theorem orderTerm {term : OrderTerm} (column : QuoteFree term.column)
    (direction : QuoteFree term.direction) : QuoteFree term.render := by
  unfold OrderTerm.render
  split
  · exact column
  · exact (column.append (by decide)).append direction

end QuoteFree

namespace Statement

variable {engine : Engine} {statement : Statement}

theorem quoteFree_kind {clause : String} (present : Clause.kind statement = some clause) :
    SqlDraft.QuoteFree clause := by
  obtain ⟨kind, -, rfl⟩ := Option.map_eq_some_iff.mp present
  cases kind <;> decide

namespace QuoteFree

variable (free : statement.QuoteFree)

include free

theorem projectionText {clause : String} (present : statement.projectionText = some clause) :
    SqlDraft.QuoteFree clause := by
  unfold Statement.projectionText at present
  split at present
  · obtain rfl := Option.some.inj present
    apply SqlDraft.QuoteFree.commaSeparated
    intro text mem
    obtain ⟨field, fieldMem, rfl⟩ := List.mem_map.mp mem
    exact (free.fields field fieldMem).trim
  · cases present

theorem tableText {clause : String} (present : statement.tableText = some clause) :
    SqlDraft.QuoteFree clause := by
  obtain ⟨kind, -, rfl⟩ := Option.map_eq_some_iff.mp present
  apply SqlDraft.QuoteFree.append _ free.table.tableText
  cases kind <;> decide

theorem join {join : Join} (mem : join ∈ statement.joins) :
    SqlDraft.QuoteFree (join.render statement.table) := by
  have texts := free.joins join mem
  have right : SqlDraft.QuoteFree (join.rightTable.getD (Join.tableText statement.table)) := by
    cases given : join.rightTable with
    | none => exact free.table.tableText
    | some table => exact texts table (by simp [Join.texts, given])
  simp only [Join.texts, List.forall_mem_append, List.forall_mem_cons] at texts
  obtain ⟨⟨table, left, rightColumn, operator, joinType, -⟩, -⟩ := texts
  unfold Join.render
  simp_all [SqlDraft.QuoteFree]

theorem groupBy {clause : String} (present : Clause.groupBy statement.grouping = some clause) :
    SqlDraft.QuoteFree clause :=
  .listing (by decide) free.grouping present

theorem orderBy {clause : String} (present : Clause.orderBy statement.ordering = some clause) :
    SqlDraft.QuoteFree clause := by
  apply SqlDraft.QuoteFree.listing (by decide) _ present
  intro text mem
  obtain ⟨term, termMem, rfl⟩ := List.mem_map.mp mem
  exact .orderTerm (free.ordering term termMem).1 (free.ordering term termMem).2

theorem pagination {clause : String} (present : Clause.pagination statement = some clause) :
    SqlDraft.QuoteFree clause := by
  have limit := free.limit
  have offset := free.offset
  unfold Clause.pagination at present
  split at present
  · cases present
  · obtain rfl := Option.some.inj present
    exact .append (by decide) limit
  · obtain rfl := Option.some.inj present
    exact .append (.append (.append (by decide) limit) (by decide)) offset

end QuoteFree
end Statement

namespace Engine

variable {engine : Engine}

theorem literals?_predicate {predicate : Predicate} (column : QuoteFree predicate.column)
    (operator : QuoteFree predicate.operator) :
    engine.literals? predicate.render = engine.literals? predicate.value := by
  unfold Predicate.render
  exact literals?_free_append
    (((column.append (by decide)).append operator).append (by decide))

theorem literals?_condition {keyword : String} (before : QuoteFree keyword)
    {conditions : List Condition} (each : ∀ condition ∈ conditions, engine.Closed condition.text)
    {clause : String} (present : Clause.condition keyword conditions = some clause) :
    engine.literals? clause =
      some (conditions.flatMap fun condition => engine.found condition.text) := by
  cases conditions with
  | nil => cases present
  | cons first rest =>
      obtain rfl := Option.some.inj present
      have connected (condition : Condition) :
          engine.literals? condition.connected = engine.literals? condition.text := by
        unfold Condition.connected
        apply literals?_free_append
        cases condition.combinator <;> decide
      rw [literals?_intercalate (by decide) (by decide)]
      · simp [found, literals?_free before, connected, List.flatMap_map]
      · intro item mem
        rcases List.mem_cons.mp mem with rfl | mem
        · exact closed_free before
        rcases List.mem_cons.mp mem with rfl | mem
        · exact each first List.mem_cons_self
        · obtain ⟨condition, condMem, rfl⟩ := List.mem_map.mp mem
          unfold Closed
          rw [connected]
          exact each condition (List.mem_cons_of_mem first condMem)

theorem literals?_commaSeparated {α : Type} {items : List α} {text content : α → String}
    (each : ∀ item ∈ items, engine.literals? (text item) = some [content item]) :
    engine.literals? (Value.commaSeparated (items.map text)) = some (items.map content) := by
  unfold Value.commaSeparated
  rw [literals?_intercalate (by decide) (by decide)]
  · rw [List.flatMap_map, List.map_eq_flatMap]
    congr 1
    exact List.flatMap_congr fun item mem => found_of_literals? (each item mem)
  · intro other mem
    obtain ⟨item, itemMem, rfl⟩ := List.mem_map.mp mem
    exact closed_of_literals? (each item itemMem)

theorem literals?_insertionText {assignments : Entries}
    (free : ∀ entry ∈ assignments, QuoteFree entry.1.display) :
    engine.literals? (Statement.insertionText engine.quote assignments) =
      some (assignments.map fun entry => entry.2.content) := by
  have columns : ∀ column ∈ Value.textsOf assignments.keys, QuoteFree column := by
    intro column mem
    obtain ⟨key, keyMem, shown⟩ := List.mem_filterMap.mp mem
    obtain ⟨entry, entryMem, rfl⟩ := List.mem_map.mp keyMem
    exact (free entry entryMem).of_asText? shown
  unfold Statement.insertionText
  rw [literals?_append_free (by decide), literals?_free_append
    ((QuoteFree.append (by decide) (.commaSeparated columns)).append (by decide))]
  exact literals?_commaSeparated fun entry _ => literals?_quote entry.2.content

theorem literals?_updateText {assignments : Entries}
    (free : ∀ entry ∈ assignments, QuoteFree entry.1.display) :
    engine.literals? (Statement.updateText engine.quote assignments) =
      some (assignments.map fun entry => entry.2.content) := by
  unfold Statement.updateText
  rw [literals?_free_append (by decide)]
  apply literals?_commaSeparated
  intro entry mem
  rw [literals?_free_append ((free entry mem).append (by decide)), literals?_quote]

/-- A clause, if it is present, has the given literals; without a clause there are none. -/
structure Shows (engine : Engine) (clause : Option String) (literals : List String) : Prop where
  /-- A clause that is present has the literals. -/
  present : ∀ text, clause = some text → engine.literals? text = some literals
  /-- A clause that is absent has no literals. -/
  absent : clause = none → literals = []

theorem shows_free {clause : Option String} (free : ∀ text, clause = some text → QuoteFree text) :
    engine.Shows clause [] :=
  ⟨fun text present => literals?_free (free text present), fun _ => rfl⟩

theorem shows_condition {keyword : String} (before : QuoteFree keyword)
    {conditions : List Condition} (each : ∀ condition ∈ conditions, engine.Closed condition.text) :
    engine.Shows (Clause.condition keyword conditions)
      (conditions.flatMap fun condition => engine.found condition.text) := by
  refine ⟨fun text present => literals?_condition before each present, fun absent => ?_⟩
  cases conditions with
  | nil => rfl
  | cons first rest => cases absent

/-- The literals of clauses in a layout are those of the clauses. -/
theorem literals?_layOut {clauses : List (Option String)} {literals : List (List String)}
    (each : List.Forall₂ engine.Shows clauses literals) :
    engine.literals? (Statement.layOut clauses) = some literals.flatten := by
  have texts : (∀ text ∈ clauses.filterMap id, engine.Closed text) ∧
      (clauses.filterMap id).flatMap engine.found = literals.flatten := by
    induction each with
    | nil => simp
    | @cons clause found clauses literals shows _ ih =>
        cases clause with
        | none => simpa [shows.absent rfl] using ih
        | some text =>
            have ended := shows.present text rfl
            have split : (some text :: clauses).filterMap id = text :: clauses.filterMap id := rfl
            rw [split]
            refine ⟨List.forall_mem_cons.mpr ⟨closed_of_literals? ended, ih.1⟩, ?_⟩
            rw [List.flatMap_cons, List.flatten_cons, found_of_literals? ended, ih.2]
  rw [Statement.layOut, literals?_trimEnd, literals?_join texts.1, texts.2]

end Engine

namespace Statement

variable {engine : Engine} {statement : Statement}

theorem shows_assignmentText (coherent : statement.Coherent) (free : statement.QuoteFree) :
    engine.Shows (statement.assignmentText engine.quote)
      (statement.assignments.map fun entry => entry.2.content) := by
  have noColumns (none : statement.assignments = []) :
      (statement.assignments.map fun entry => entry.2.content) = [] := by
    rw [none]
    rfl
  unfold assignmentText
  split
  · exact ⟨nofun, fun _ => noColumns (by assumption)⟩
  · refine ⟨fun text present => ?_, nofun⟩
    obtain rfl := Option.some.inj present
    exact Engine.literals?_insertionText free.columns
  · refine ⟨fun text present => ?_, nofun⟩
    obtain rfl := Option.some.inj present
    exact Engine.literals?_updateText free.columns
  · refine ⟨nofun, fun _ => noColumns ?_⟩
    rcases coherent.assignments with none | assigns
    · exact none
    · obtain ⟨kind, kindSet, assigned⟩ := (Option.any_eq_true ..).mp assigns
      cases kind <;> simp_all [Kind.assigns]

theorem shows_filter (free : statement.QuoteFree)
    (rows : ∀ predicate ∈ statement.predicates, engine.Closed predicate.value) :
    engine.Shows (Clause.filter statement)
      (statement.predicates.flatMap fun predicate => engine.found predicate.value) := by
  have same (predicate : Predicate) (mem : predicate ∈ statement.predicates) :
      engine.literals? predicate.render = engine.literals? predicate.value :=
    Engine.literals?_predicate (free.predicates predicate mem).1 (free.predicates predicate mem).2
  have texts : (statement.predicates.flatMap fun predicate => engine.found predicate.value) =
      (statement.predicates.map Predicate.condition).flatMap
        fun condition => engine.found condition.text := by
    rw [List.flatMap_map]
    apply List.flatMap_congr
    intro predicate mem
    simp only [Engine.found, Predicate.condition, same predicate mem]
  rw [texts]
  apply Engine.shows_condition (by decide)
  intro condition mem
  obtain ⟨predicate, predicateMem, rfl⟩ := List.mem_map.mp mem
  unfold Engine.Closed
  rw [Predicate.condition, same predicate predicateMem]
  exact rows predicate predicateMem

theorem shows_having (groups : ∀ having ∈ statement.having, engine.Closed having.expression) :
    engine.Shows (Clause.having statement)
      (statement.having.flatMap fun having => engine.found having.expression) := by
  have texts : (statement.having.flatMap fun having => engine.found having.expression) =
      (statement.having.map Having.condition).flatMap
        fun condition => engine.found condition.text := by
    rw [List.flatMap_map]
    rfl
  rw [texts]
  apply Engine.shows_condition (by decide)
  intro condition mem
  obtain ⟨having, havingMem, rfl⟩ := List.mem_map.mp mem
  exact groups having havingMem

theorem shows_joins (free : statement.QuoteFree) :
    List.Forall₂ engine.Shows
      (statement.joins.map fun join => some (join.render statement.table))
      (statement.joins.map fun _ => []) := by
  rw [List.forall₂_map_left_iff, List.forall₂_map_right_iff, List.forall₂_same]
  intro join mem
  exact Engine.shows_free fun text present => Option.some.inj present ▸ free.join mem

/-- The literals of a statement are the assigned texts, the literals of the conditions on rows and
those of the conditions on groups. -/
theorem literals?_assemble (coherent : statement.Coherent) (free : statement.QuoteFree)
    (rows : ∀ predicate ∈ statement.predicates, engine.Closed predicate.value)
    (groups : ∀ having ∈ statement.having, engine.Closed having.expression) {sql : String}
    (assembled : statement.assemble engine.quoter = .ok sql) :
    engine.literals? sql = some ((statement.assignments.map fun entry => entry.2.content) ++
      (statement.predicates.flatMap fun predicate => engine.found predicate.value) ++
      statement.having.flatMap fun having => engine.found having.expression) := by
  have opening : List.Forall₂ engine.Shows
      [Clause.kind statement, statement.projectionText, statement.tableText,
        statement.assignmentText engine.quote]
      [[], [], [], statement.assignments.map fun entry => entry.2.content] :=
    .cons (Engine.shows_free fun _ => quoteFree_kind) <|
      .cons (Engine.shows_free fun _ => free.projectionText) <|
      .cons (Engine.shows_free fun _ => free.tableText) <|
      .cons (shows_assignmentText coherent free) .nil
  have closing : List.Forall₂ engine.Shows
      [Clause.filter statement, Clause.groupBy statement.grouping, Clause.having statement,
        Clause.orderBy statement.ordering, Clause.pagination statement]
      [statement.predicates.flatMap fun predicate => engine.found predicate.value, [],
        statement.having.flatMap fun having => engine.found having.expression, [], []] :=
    .cons (shows_filter free rows) <|
      .cons (Engine.shows_free fun _ => free.groupBy) <|
      .cons (shows_having groups) <|
      .cons (Engine.shows_free fun _ => free.orderBy) <|
      .cons (Engine.shows_free fun _ => free.pagination) .nil
  have clauses := List.rel_append (List.rel_append opening (shows_joins free)) closing
  rw [assemble_eq_ok engine.computes_quoter assembled, clauseTexts,
    Engine.literals?_layOut clauses]
  simp

end Statement
end SqlDraft
