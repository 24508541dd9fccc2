import SqlDraft.Proofs.PlainHead

/-!
# Layout of plain statements

No clause of a plain statement ends in a blank.  Removing the blanks at the end of the text removes
exactly the blank behind the last clause, so the text tells the same as the clauses with the blanks
behind them.
-/

namespace SqlDraft

/-- The text ends in a character that is not blank. -/
def EndsSolid (text : String) : Prop :=
  ∃ front last, text.toList = front ++ [last] ∧ Text.isBlank last = false

namespace EndsSolid

theorem append (left : String) {right : String} (solid : EndsSolid right) :
    EndsSolid (left ++ right) := by
  obtain ⟨front, last, split, solid⟩ := solid
  exact ⟨left.toList ++ front, last, by simp [split], solid⟩

theorem of_stops {text : String} (nonempty : text ≠ "")
    (stops : Stops Text.isBlank text.toList.reverse) : EndsSolid text := by
  obtain ⟨last, front, split⟩ := List.exists_cons_of_ne_nil
    (List.reverse_ne_nil_iff.mpr (mt String.toList_eq_nil_iff.mp nonempty))
  refine ⟨front.reverse, last, ?_, ?_⟩
  · rw [← List.reverse_reverse text.toList, split, List.reverse_cons]
  · exact (stops_cons ..).mp (split ▸ stops)

theorem of_compact {text : String} (nonempty : text ≠ "")
    (compact : ∀ c ∈ text.toList, Text.isBlank c = false) : EndsSolid text :=
  of_stops nonempty fun c first =>
    compact c (List.mem_reverse.mp (List.mem_of_mem_head? first))

theorem name {text : String} (isName : IsName text) : EndsSolid text :=
  of_compact isName.nonempty fun c mem =>
    isBlank_of_isFieldCharacter (by simp [isFieldCharacter, isName.characters c mem])

theorem field {text : String} (isField : IsField text) : EndsSolid text := by
  rcases isField with isName | rfl
  · exact name isName
  · exact ⟨[], '*', rfl, by decide⟩

theorem quote (engine : Engine) (content : String) : EndsSolid (engine.quote content) :=
  ⟨_, '\'', String.toList_ofList, by decide⟩

theorem expression {engine : Engine} {text : String} (isExpression : engine.IsExpression text) :
    EndsSolid text :=
  of_stops isExpression.nonempty (Text.stops_of_trim isExpression.trimmed)

theorem intercalate (separator : String) {items : List String} (nonempty : items ≠ [])
    (each : ∀ item ∈ items, EndsSolid item) : EndsSolid (separator.intercalate items) := by
  induction items with
  | nil => exact absurd rfl nonempty
  | cons item items ih =>
      cases items with
      | nil => simpa using each item List.mem_cons_self
      | cons next items =>
          rw [String.intercalate_cons_cons]
          exact append _ (ih (List.cons_ne_nil _ _) fun other mem =>
            each other (List.mem_cons_of_mem item mem))

theorem listing {keyword : String} {names : List String} (each : ∀ name ∈ names, EndsSolid name)
    {text : String} (present : Clause.listing keyword names = some text) : EndsSolid text := by
  unfold Clause.listing at present
  split at present
  · cases present
  · rename_i nonempty
    obtain rfl := Option.some.inj present
    exact append _ (intercalate _ (by simpa using nonempty) each)

theorem condition {keyword : String} {conditions : List Condition}
    (each : ∀ condition ∈ conditions, EndsSolid condition.text) {text : String}
    (present : Clause.condition keyword conditions = some text) : EndsSolid text := by
  cases conditions with
  | nil => cases present
  | cons first rest =>
      obtain ⟨firstSolid, restSolid⟩ := List.forall_mem_cons.mp each
      obtain rfl := Option.some.inj present
      rw [String.intercalate_cons_cons]
      apply append _ (intercalate _ (List.cons_ne_nil _ _) _)
      refine List.forall_mem_cons.mpr ⟨firstSolid, ?_⟩
      rw [List.forall_mem_map]
      exact fun condition mem => append _ (restSolid condition mem)

theorem predicate {engine : Engine} {predicate : Predicate} (plain : predicate.IsPlain engine) :
    EndsSolid predicate.render := by
  unfold Predicate.render
  apply append
  rcases plain.comparison with ⟨-, token | ⟨content, literal⟩⟩ | ⟨-, null⟩
  · exact of_compact token.nonempty token.compact
  · exact literal ▸ quote engine content
  · exact null ▸ of_compact (by decide) (by decide)

theorem count {value : Value} (isCount : value.IsCount) : EndsSolid value.display := by
  obtain rfl | ⟨number, rfl⟩ := isCount
  · exact of_compact (by decide) (by decide)
  · refine of_compact ?_ fun c mem =>
      isBlank_of_isNumberCharacter (IsNumberText.integerText number c mem)
    simp [Value.display, Value.inspect, integerText, decimalDigits_ne_nil]

theorem orderTerm {term : OrderTerm} (plain : term.IsPlain) : EndsSolid term.render := by
  unfold OrderTerm.render
  split
  · exact name plain.column
  · rename_i given
    exact append _ (name (plain.direction.resolve_left (by simpa using given)))

theorem insertionText (quote : String → String) (assignments : Entries) :
    EndsSolid (Statement.insertionText quote assignments) :=
  append _ ⟨[], ')', rfl, by decide⟩

theorem updateText (engine : Engine) {assignments : Entries} (given : assignments ≠ []) :
    EndsSolid (Statement.updateText engine.quote assignments) := by
  apply append _ (intercalate _ (by simpa using given) _)
  rw [List.forall_mem_map]
  exact fun entry _ => append _ (quote engine entry.2.content)

end EndsSolid

namespace Statement

theorem toList_join_spaced (clauses : List (Option String)) :
    (String.join ((clauses.filterMap id).map fun clause => clause ++ " ")).toList =
      clauses.flatMap spaced := by
  induction clauses with
  | nil => rfl
  | cons clause clauses ih =>
      cases clause with
      | none => exact ih
      | some text => simp [← ih]

theorem flatMap_spaced_cases {clauses : List (Option String)}
    (each : ∀ text, some text ∈ clauses → EndsSolid text) :
    clauses.flatMap spaced = [] ∨
      ∃ solid, EndsSolid solid ∧ clauses.flatMap spaced = solid.toList ++ [' '] := by
  induction clauses with
  | nil => exact .inl rfl
  | cons clause clauses ih =>
      have rest := ih fun text mem => each text (List.mem_cons_of_mem clause mem)
      cases clause with
      | none => exact rest
      | some text =>
          right
          rcases rest with empty | ⟨solid, ends, split⟩
          · exact ⟨text, each text List.mem_cons_self, by simp [empty]⟩
          · refine ⟨text ++ " " ++ solid, ends.append _, ?_⟩
            simp [split]

/-- The layout of clauses that do not end in blanks lacks nothing but the blank behind the last
one. -/
theorem flatMap_spaced {clauses : List (Option String)}
    (each : ∀ text, some text ∈ clauses → EndsSolid text) {first : String}
    (present : some first ∈ clauses) :
    clauses.flatMap spaced = (layOut clauses).toList ++ [' '] := by
  rcases flatMap_spaced_cases each with empty | ⟨solid, ⟨front, last, ends, notBlank⟩, split⟩
  · have none := List.flatMap_eq_nil_iff.mp empty _ present
    simp at none
  · have blank : Text.isBlank ' ' = true := by decide
    rw [layOut, Text.toList_trimEnd, toList_join_spaced, split, ends]
    simp [Text.dropEndWhile, blank, notBlank]

variable {engine : Engine} {statement : Statement}

theorem endsSolid_projectionText (coherent : statement.Coherent) (plain : statement.IsPlain engine)
    {text : String} (present : statement.projectionText = some text) : EndsSolid text := by
  rcases statement.projection_cases coherent plain with null | fields
  · simp [projectionText, null, Value.isTruthy] at present
  · rw [projectionText, if_pos ⟨fields.kind, fields.truthy⟩] at present
    obtain rfl := Option.some.inj present
    apply EndsSolid.intercalate _ (by simpa using fields.nonempty)
    rw [List.forall_mem_map]
    exact fun field mem => .field (fields.plain field mem)

theorem endsSolid_tableText (plain : statement.IsPlain engine) {text : String}
    (present : statement.tableText = some text) : EndsSolid text := by
  obtain ⟨name, named, isName⟩ := plain.table
  obtain ⟨kind, -, rfl⟩ := Option.map_eq_some_iff.mp present
  apply EndsSolid.append
  rw [named, tableText_text isName]
  exact .name isName

theorem endsSolid_assignmentText (coherent : statement.Coherent) {text : String}
    (present : statement.assignmentText engine.quote = some text) : EndsSolid text := by
  by_cases given : statement.assignments = []
  · rw [assignmentText_of_nil _ given] at present
    cases present
  · rcases coherent.kind_of_assignments given with kind | kind
    · rw [assignmentText_insert _ kind given] at present
      obtain rfl := Option.some.inj present
      exact .insertionText _ _
    · rw [assignmentText_update _ kind given] at present
      obtain rfl := Option.some.inj present
      exact .updateText engine given

theorem endsSolid_pagination (plain : statement.IsPlain engine) {text : String}
    (present : Clause.pagination statement = some text) : EndsSolid text := by
  unfold Clause.pagination at present
  split at present
  · cases present
  · obtain rfl := Option.some.inj present
    exact .append _ (.count plain.limit)
  · obtain rfl := Option.some.inj present
    exact .append _ (.count plain.offset)

theorem endsSolid_clauseTexts (coherent : statement.Coherent) (plain : statement.IsPlain engine)
    (predicates : ∀ predicate ∈ statement.predicates, predicate.IsPlain engine) {text : String}
    (present : some text ∈ statement.clauseTexts engine.quote) : EndsSolid text := by
  simp only [clauseTexts, List.mem_append, List.mem_cons, List.not_mem_nil, or_false, List.mem_map,
    Option.some.injEq] at present
  rcases present with ((kind | projection | table | assignment) | ⟨join, joinMem, rfl⟩) |
    (rows | grouping | groups | ordering | pagination)
  · obtain ⟨which, -, rfl⟩ := Option.map_eq_some_iff.mp kind.symm
    cases which <;> exact .of_stops (by decide) (by decide +kernel)
  · exact endsSolid_projectionText coherent plain projection.symm
  · exact endsSolid_tableText plain table.symm
  · exact endsSolid_assignmentText coherent assignment.symm
  · exact .append _ (.name (plain.joins join joinMem).rightColumn)
  · apply EndsSolid.condition _ rows.symm
    rw [List.forall_mem_map]
    exact fun predicate mem => .predicate (predicates predicate mem)
  · exact .listing (fun name mem => .name (plain.grouping name mem)) grouping.symm
  · apply EndsSolid.condition _ groups.symm
    rw [List.forall_mem_map]
    exact fun having mem => .expression (plain.having having mem)
  · apply EndsSolid.listing _ ordering.symm
    rw [List.forall_mem_map]
    exact fun term mem => .orderTerm (plain.ordering term mem)
  · exact endsSolid_pagination plain pagination.symm

end Statement

end SqlDraft
