import SqlDraft.Builder.Basic
import SqlDraft.Proofs.Segments

/-!
# Templates

A template is a text with holes.  Every hole carries the text that is to be quoted there, and
filling a template puts the quoted texts into the holes.  The clauses of a statement have templates
that do not know the quoter, and what a quoter gives for the clauses are the filled templates.
-/

namespace SqlDraft

/-- A piece of a template. -/
inductive Piece
  /-- A text that stands as it is. -/
  | fixed (text : String)
  /-- The place of a literal for a text. -/
  | hole (label : String)
deriving DecidableEq, Repr

namespace Piece

/-- The text of a piece under a quoting function. -/
def fill (quote : String → String) : Piece → String
  | fixed text => text
  | hole label => quote label

/-- The text that is to be quoted in a piece, if it is a hole. -/
def label? : Piece → Option String
  | fixed _ => none
  | hole label => some label

end Piece

/-- A text with holes. -/
abbrev Template := List Piece

namespace Template

/-- A template without holes. -/
def text (content : String) : Template := [.fixed content]

/-- The text of a template under a quoting function. -/
def fill (quote : String → String) (template : Template) : String :=
  String.join (template.map (Piece.fill quote))

/-- The texts that are to be quoted, in the order of their holes. -/
def labels (template : Template) : List String := template.filterMap Piece.label?

/-- Templates with a template between them. -/
def separated (separator : Template) (items : List Template) : Template :=
  (items.intersperse separator).flatten

@[simp]
theorem labels_nil : labels [] = [] := rfl

@[simp]
theorem labels_cons (piece : Piece) (template : Template) :
    labels (piece :: template) = piece.label?.toList ++ labels template := by
  cases piece <;> rfl

@[simp]
theorem labels_append (left right : Template) :
    labels (left ++ right) = labels left ++ labels right := by
  simp [labels]

@[simp]
theorem labels_text (content : String) : labels (text content) = [] := rfl

theorem labels_separated_subset {separator : Template} {items : List Template}
    {allowed : List String} (between : separator.labels ⊆ allowed)
    (within : ∀ item ∈ items, labels item ⊆ allowed) :
    labels (separated separator items) ⊆ allowed := by
  induction items with
  | nil => simp [separated]
  | cons item items ih =>
      have first := within item List.mem_cons_self
      cases items with
      | nil => simpa [separated] using first
      | cons next items =>
          have unfolded : separated separator (item :: next :: items) =
              item ++ (separator ++ separated separator (next :: items)) := rfl
          rw [unfolded, labels_append, labels_append]
          exact List.append_subset.mpr ⟨first, List.append_subset.mpr
            ⟨between, ih fun other mem => within other (List.mem_cons_of_mem item mem)⟩⟩

variable (quote : String → String)

@[simp]
theorem fill_nil : fill quote [] = "" := rfl

@[simp]
theorem fill_cons (piece : Piece) (template : Template) :
    fill quote (piece :: template) = piece.fill quote ++ fill quote template := by
  simp [fill]

@[simp]
theorem fill_append (left right : Template) :
    fill quote (left ++ right) = fill quote left ++ fill quote right := by
  simp [fill]

@[simp]
theorem fill_text (content : String) : fill quote (text content) = content := by
  simp [text, Piece.fill]

@[simp]
theorem fill_separated (separator : Template) (items : List Template) :
    fill quote (separated separator items) =
      (separator.fill quote).intercalate (items.map (fill quote)) := by
  induction items with
  | nil => rfl
  | cons item items ih =>
      cases items with
      | nil => simp [separated]
      | cons next items =>
          have unfolded : separated separator (item :: next :: items) =
              item ++ (separator ++ separated separator (next :: items)) := rfl
          rw [unfolded, fill_append, fill_append, ih]
          simp [String.append_assoc]

/-- A condition whose text has holes. -/
structure Condition where
  /-- The connective to the condition before. -/
  combinator : Combinator
  /-- The text of the condition. -/
  text : Template
deriving DecidableEq, Repr

namespace Condition

/-- The condition under a quoting function. -/
def fill (condition : Template.Condition) : SqlDraft.Condition :=
  ⟨condition.combinator, condition.text.fill quote⟩

/-- A condition behind its combinator. -/
def connected (condition : Template.Condition) : Template :=
  Template.text (condition.combinator.keyword ++ " ") ++ condition.text

@[simp]
theorem fill_connected (condition : Template.Condition) :
    condition.connected.fill quote = (condition.fill quote).connected := by
  simp [connected, fill, SqlDraft.Condition.connected]

end Condition

/-- Conditions behind a keyword, each but the first behind its combinator. -/
def conditions (keyword : String) : List Template.Condition → Option Template
  | [] => none
  | first :: rest =>
      some (separated (text " ") (text keyword :: first.text :: rest.map Condition.connected))

theorem fill_conditions (keyword : String) (items : List Template.Condition) :
    (conditions keyword items).map (fill quote) =
      Clause.condition keyword (items.map (Condition.fill quote)) := by
  cases items with
  | nil => rfl
  | cons first rest =>
      simp [conditions, Clause.condition, Condition.fill, Function.comp_def]

/-- The columns and the values of an insertion. -/
def insertion (assignments : Entries) : Except Failure Template := do
  let columns ← Value.texts assignments.keys
  .ok (text ("(" ++ Value.commaSeparated columns ++ ") VALUES (") ++
    separated (text ", ") (assignments.map fun entry => [.hole entry.2.content]) ++ text ")")

/-- One assigned column of an update. -/
def assigned (entry : Value × Value) : Template :=
  [.fixed (entry.1.display ++ " = "), .hole entry.2.content]

/-- The assigned columns of an insertion or an update. -/
def assignment (statement : Statement) : Except Failure (Option Template) :=
  match statement.assignments, statement.kind with
  | [], _ => .ok none
  | assignments, some .insert => (insertion assignments).map some
  | assignments, some .update =>
      .ok (some (text "SET " ++ separated (text ", ") (assignments.map assigned)))
  | _, _ => .ok none

/-- The clauses of a statement with the given conditions on rows and on groups. -/
def clauses (statement : Statement) (rows groups : List Template.Condition) :
    Except Failure (List (Option Template)) := do
  let projection ← Clause.projection statement
  let assignment ← assignment statement
  .ok ([(Clause.kind statement).map text, projection.map text,
      (Clause.table statement).map fun table => text table.display, assignment] ++
    (statement.joins.map fun join => some (text (join.render statement.table))) ++
    [conditions "WHERE" rows, (Clause.groupBy statement.grouping).map text,
      conditions "HAVING" groups, (Clause.orderBy statement.ordering).map text,
      (Clause.pagination statement).map text])

/-- The clauses that are present, each followed by a space. -/
def layOut (clauses : List (Option Template)) : Template :=
  (clauses.filterMap id).flatMap fun clause => clause ++ text " "

theorem fill_layOut (items : List (Option Template)) :
    Text.trimEnd (fill quote (layOut items)) =
      Statement.layOut (items.map (Option.map (fill quote))) := by
  unfold Statement.layOut
  congr 1
  induction items with
  | nil => rfl
  | cons item items ih =>
      cases item with
      | none => simpa [layOut] using ih
      | some clause =>
          have unfolded : layOut (some clause :: items) = clause ++ text " " ++ layOut items := rfl
          rw [unfolded, fill_append, ih]
          simp

variable {allowed : List String}

theorem labels_layOut_subset {items : List (Option Template)}
    (within : ∀ clause, some clause ∈ items → labels clause ⊆ allowed) :
    labels (layOut items) ⊆ allowed := by
  intro label mem
  simp only [labels, layOut, List.filterMap_flatMap, List.mem_flatMap, List.mem_filterMap, id_eq,
    exists_eq_right] at mem
  obtain ⟨clause, present, piece, pieceMem, labelled⟩ := mem
  apply within clause present
  rcases List.mem_append.mp pieceMem with inside | space
  · exact List.mem_filterMap.mpr ⟨piece, inside, labelled⟩
  · obtain rfl := List.mem_singleton.mp space
    cases labelled

theorem labels_conditions_subset {keyword : String} {items : List Template.Condition}
    (within : ∀ item ∈ items, labels item.text ⊆ allowed) {clause : Template}
    (present : conditions keyword items = some clause) : labels clause ⊆ allowed := by
  cases items with
  | nil => cases present
  | cons first rest =>
      obtain rfl := Option.some.inj present
      apply labels_separated_subset
      · simp
      · intro item mem
        rcases List.mem_cons.mp mem with rfl | mem
        · simp
        rcases List.mem_cons.mp mem with rfl | mem
        · exact within first List.mem_cons_self
        · obtain ⟨condition, condMem, rfl⟩ := List.mem_map.mp mem
          simpa [Condition.connected] using within condition (List.mem_cons_of_mem first condMem)

theorem labels_entries_subset {assignments : Entries} {item : Value × Value → Template}
    (single : ∀ entry, labels (item entry) = [entry.2.content])
    (within : ∀ entry ∈ assignments, entry.2.content ∈ allowed) :
    labels (separated (text ", ") (assignments.map item)) ⊆ allowed := by
  apply labels_separated_subset
  · simp
  · intro template mem
    obtain ⟨entry, entryMem, rfl⟩ := List.mem_map.mp mem
    simpa [single] using within entry entryMem

theorem labels_assignment_subset {statement : Statement}
    (within : ∀ entry ∈ statement.assignments, entry.2.content ∈ allowed) {clause : Template}
    (present : assignment statement = .ok (some clause)) : labels clause ⊆ allowed := by
  unfold assignment at present
  split at present
  · cases present
  · unfold insertion at present
    cases read : Value.texts statement.assignments.keys with
    | error failure =>
        rw [read] at present
        cases present
    | ok columns =>
        rw [read] at present
        obtain rfl := Option.some.inj (Except.ok.inj present)
        simpa using labels_entries_subset (fun _ => rfl) within
  · obtain rfl := Option.some.inj (Except.ok.inj present)
    simpa using labels_entries_subset (fun _ => rfl) within
  · cases present

/-- The labels of the clauses are texts of assigned values and labels of the conditions. -/
theorem labels_clauses_subset {statement : Statement} {rows groups : List Template.Condition}
    (assignedWithin : ∀ entry ∈ statement.assignments, entry.2.content ∈ allowed)
    (rowsWithin : ∀ condition ∈ rows, labels condition.text ⊆ allowed)
    (groupsWithin : ∀ condition ∈ groups, labels condition.text ⊆ allowed)
    {items : List (Option Template)} (rendered : clauses statement rows groups = .ok items)
    (clause : Template) (present : some clause ∈ items) : labels clause ⊆ allowed := by
  unfold clauses at rendered
  cases projected : Clause.projection statement with
  | error failure =>
      rw [projected] at rendered
      cases rendered
  | ok projection =>
      cases assigned : assignment statement with
      | error failure =>
          rw [projected, assigned] at rendered
          cases rendered
      | ok assignment =>
          rw [projected, assigned] at rendered
          obtain rfl := Except.ok.inj rendered
          -- Only three clauses have holes.
          have fixed {source : Option String} (mem : some clause = source.map text) :
              labels clause ⊆ allowed := by
            obtain ⟨content, -, rfl⟩ := Option.map_eq_some_iff.mp mem.symm
            simp
          simp only [List.mem_append, List.mem_cons, List.not_mem_nil, or_false, List.mem_map,
            Option.some.injEq] at present
          rcases present with ((kind | projection | table | assignment) | ⟨join, -, rfl⟩) |
            (rows | grouping | groups | ordering | pagination)
          · exact fixed kind
          · exact fixed projection
          · obtain ⟨value, -, rfl⟩ := Option.map_eq_some_iff.mp table.symm
            simp
          · exact labels_assignment_subset assignedWithin (assignment ▸ assigned)
          · simp
          · exact labels_conditions_subset rowsWithin rows.symm
          · exact fixed grouping
          · exact labels_conditions_subset groupsWithin groups.symm
          · exact fixed ordering
          · exact fixed pagination

end Template

/-- The quoter answers every text with the text that a function gives for it. -/
def Quoter.Computes (quoter : Quoter) (quote : String → String) : Prop :=
  ∀ content, quoter.quoteText content = .ok (.text (quote content))

theorem Quoter.computes_ofFunction (dialect : String) (function : String → String) :
    (ofFunction dialect function).Computes function := fun _ => rfl

theorem Quoter.Computes.quote_eq {quoter : Quoter} {quote : String → String}
    (computes : quoter.Computes quote) (value : Value) :
    quoter.quote value = .ok (.text (quote value.content)) :=
  computes value.content

theorem mapM_of_forall_ok {α β ε : Type} {function : α → Except ε β} {result : α → β}
    {items : List α} (each : ∀ item ∈ items, function item = .ok (result item)) :
    items.mapM function = .ok (items.map result) := by
  induction items with
  | nil => rfl
  | cons item items ih =>
      obtain ⟨first, rest⟩ := List.forall_mem_cons.mp each
      rw [List.mapM_cons, first, ih rest]
      rfl

theorem mapM_ok {α β ε : Type} (function : α → β) (items : List α) :
    items.mapM (fun item => (.ok (function item) : Except ε β)) = .ok (items.map function) :=
  mapM_of_forall_ok fun _ _ => rfl

theorem Value.textsFrom_map_text (position : Nat) (contents : List String) :
    textsFrom position (contents.map text) = .ok contents := by
  induction contents generalizing position with
  | nil => rfl
  | cons content contents ih => simp [textsFrom, asText?, ih, Except.map]

namespace Template

variable {quoter : Quoter} {quote : String → String}

theorem insertion_eq (computes : quoter.Computes quote) (assignments : Entries) :
    Clause.insertion quoter assignments = (insertion assignments).map (fill quote) := by
  unfold Clause.insertion insertion
  cases Value.texts assignments.keys with
  | error failure => rfl
  | ok columns =>
      simp only [computes.quote_eq, mapM_ok, bind, Except.bind]
      have literals : (assignments.map fun entry => Value.text (quote entry.2.content)) =
          (assignments.map fun entry => quote entry.2.content).map Value.text := by
        simp [Function.comp_def]
      rw [literals, Value.texts, Value.textsFrom_map_text]
      simp [Except.map, Value.commaSeparated, Function.comp_def, Piece.fill, String.append_assoc]

theorem assigned_eq (computes : quoter.Computes quote) (entry : Value × Value) :
    Clause.assigned quoter entry = .ok ((assigned entry).fill quote) := by
  simp [Clause.assigned, computes.quote_eq, Except.map, assigned, Piece.fill, Value.display]

theorem assignment_eq (computes : quoter.Computes quote) (statement : Statement) :
    Clause.assignment quoter statement = (assignment statement).map (Option.map (fill quote)) := by
  unfold Clause.assignment assignment
  generalize statement.assignments = assignments
  generalize statement.kind = kind
  rcases assignments with _ | ⟨entry, entries⟩
  · rfl
  · rcases kind with _ | kind
    · rfl
    · cases kind with
      | insert =>
          simp only [insertion_eq computes]
          cases insertion (entry :: entries) <;> rfl
      | update =>
          have each : Clause.assigned quoter = fun entry => .ok ((assigned entry).fill quote) :=
            funext (assigned_eq computes)
          simp only [each, mapM_ok, bind, Except.bind]
          simp [Except.map, Value.commaSeparated, Function.comp_def]
      | select | delete => rfl

theorem clauses_eq (computes : quoter.Computes quote) {statement : Statement}
    {rows groups : List Template.Condition}
    (rowsEq : statement.predicates.map Predicate.condition = rows.map (Condition.fill quote))
    (groupsEq : statement.having.map Having.condition = groups.map (Condition.fill quote)) :
    statement.clauses quoter =
      (clauses statement rows groups).map (List.map (Option.map (fill quote))) := by
  unfold Statement.clauses clauses
  rw [assignment_eq computes]
  cases Clause.projection statement with
  | error failure => rfl
  | ok projection =>
      cases assignment statement with
      | error failure => rfl
      | ok assignment =>
          simp [bind, Except.bind, Except.map, Clause.filter, Clause.having, rowsEq, groupsEq,
            fill_conditions, Function.comp_def]

/-- The text of a statement is its filled template, without the blanks at the end. -/
theorem assemble_eq (computes : quoter.Computes quote) {statement : Statement}
    {rows groups : List Template.Condition}
    (rowsEq : statement.predicates.map Predicate.condition = rows.map (Condition.fill quote))
    (groupsEq : statement.having.map Having.condition = groups.map (Condition.fill quote)) :
    statement.assemble quoter =
      ((clauses statement rows groups).map layOut).map fun template =>
        Text.trimEnd (template.fill quote) := by
  unfold Statement.assemble
  rw [clauses_eq computes rowsEq groupsEq]
  cases clauses statement rows groups with
  | error failure => rfl
  | ok items => simp [Except.map, fill_layOut]

end Template
end SqlDraft
