import SqlDraft.Proofs.ClauseText
import SqlDraft.Proofs.Gating
import SqlDraft.Proofs.History

/-!
# Failures of rendering

A statement is stored as it is given, so what cannot be joined shows only when the text is
assembled.  Two clauses can fail: the field list of a selection with fields that are no texts, and
the columns of an insertion with keys that are no texts.  Everything else is rendered, whatever it
is.  The fields of a selection stay, and so does their failure; columns can be assigned again.
-/

namespace SqlDraft

theorem mapM_append_error {α β ε : Type} {function : α → Except ε β} {result : α → β}
    {before after : List α} {item : α} {failure : ε}
    (each : ∀ other ∈ before, function other = .ok (result other))
    (fails : function item = .error failure) :
    (before ++ item :: after).mapM function = .error failure := by
  rw [List.mapM_append, mapM_of_forall_ok each, List.mapM_cons, fails]
  rfl

theorem exists_cut_of_findIdx? {α : Type} {selects : α → Bool} {items : List α} {position : Nat}
    (found : items.findIdx? selects = some position) :
    ∃ before item after, items = before ++ item :: after ∧ before.length = position ∧
      selects item = true ∧ ∀ other ∈ before, selects other = false := by
  obtain ⟨inside, selected, earlier⟩ := List.findIdx?_eq_some_iff_getElem.mp found
  refine ⟨items.take position, items[position], items.drop (position + 1), ?_, ?_, selected, ?_⟩
  · rw [List.getElem_cons_drop inside, List.take_append_drop]
  · rw [List.length_take, Nat.min_eq_left (Nat.le_of_lt inside)]
  · intro other mem
    obtain ⟨place, before, rfl⟩ := List.mem_take_iff_getElem.mp mem
    exact Bool.eq_false_iff.mpr (earlier place (Nat.lt_of_lt_of_le before (Nat.min_le_left _ _)))

namespace Value

/-- The value is a text. -/
def isText (value : Value) : Bool := value.asText?.isSome

/-- The value is a byte sequence. -/
def isBytes : Value → Bool
  | bytes _ => true
  | _ => false

/-- The value has blanks at its ends that can be removed. -/
def isTrimmable (value : Value) : Bool := value.isText || value.isBytes

/-- A text without the blanks at its ends; anything else stays. -/
def strip (value : Value) : Value :=
  value.asText?.elim value fun content => text (Text.trim content)

theorem isText_strip (value : Value) : value.strip.isText = value.isText := by
  cases value <;> rfl

theorem trimmed_of_isTrimmable {value : Value} (trimmable : value.isTrimmable = true) :
    value.trimmed = .ok value.strip := by
  cases value <;> first | rfl | cases trimmable

theorem trimmed_of_not_isTrimmable {value : Value} (other : value.isTrimmable = false) :
    value.trimmed = .error (.lacks value.typeName "strip") := by
  cases value <;> first | rfl | cases other

theorem isBytes_of_not_isText {value : Value} (trimmable : value.isTrimmable = true)
    (noText : value.isText = false) : value.isBytes = true := by
  rwa [isTrimmable, noText, Bool.false_or] at trimmable

theorem isText_of_not_isBytes {value : Value} (trimmable : value.isTrimmable = true)
    (noBytes : value.isBytes = false) : value.isText = true := by
  rwa [isTrimmable, noBytes, Bool.or_false] at trimmable

theorem not_isText_of_isBytes {value : Value} (isBytes : value.isBytes = true) :
    value.isText = false ∧ value.strip.typeName = "bytes" := by
  cases value <;> first | exact ⟨rfl, rfl⟩ | cases isBytes

variable {items : List Value}

theorem textsFrom_of_isText (position : Nat) (each : ∀ item ∈ items, item.isText = true) :
    textsFrom position items = .ok (textsOf items) := by
  induction items generalizing position with
  | nil => rfl
  | cons item items ih =>
      obtain ⟨first, rest⟩ := List.forall_mem_cons.mp each
      obtain ⟨content, shown⟩ := Option.isSome_iff_exists.mp first
      simp only [textsFrom, shown, ih _ rest, textsOf, List.filterMap_cons]
      rfl

theorem textsFrom_append_error (position : Nat) {before after : List Value} {item : Value}
    (each : ∀ other ∈ before, other.isText = true) (noText : item.isText = false) :
    textsFrom position (before ++ item :: after) =
      .error (.itemNotText (position + before.length) item.typeName) := by
  induction before generalizing position with
  | nil =>
      have hidden : item.asText? = none :=
        Option.isNone_iff_eq_none.mp (Option.isSome_eq_false_iff.mp noText)
      simp only [List.nil_append, textsFrom, hidden]
      rfl
  | cons other before ih =>
      obtain ⟨first, rest⟩ := List.forall_mem_cons.mp each
      obtain ⟨content, shown⟩ := Option.isSome_iff_exists.mp first
      simp only [List.cons_append, textsFrom, shown, ih _ rest, Except.map, List.length_cons]
      rw [Nat.add_right_comm, Nat.add_assoc]

end Value

namespace Clause

variable {items : List Value}

theorem fields_of_isText (each : ∀ item ∈ items, item.isText = true) :
    ∃ sql, fields (.list items) = .ok sql := by
  have trimmed : items.mapM Value.trimmed = .ok (items.map Value.strip) :=
    mapM_of_forall_ok fun item mem => Value.trimmed_of_isTrimmable (by
      rw [Value.isTrimmable, each item mem, Bool.true_or])
  have texts : Value.texts (items.map Value.strip) =
      .ok (Value.textsOf (items.map Value.strip)) := by
    refine Value.textsFrom_of_isText 0 ?_
    rintro _ mem
    obtain ⟨item, given, rfl⟩ := List.mem_map.mp mem
    rw [Value.isText_strip, each item given]
  refine ⟨Value.commaSeparated (Value.textsOf (items.map Value.strip)), ?_⟩
  simp only [fields, Value.asText?, Value.items?, trimmed, bind, Except.bind, texts]
  rfl

/-- The first field that cannot be trimmed is reported by its type. -/
theorem fields_of_find? {item : Value}
    (found : items.find? (fun item => !item.isTrimmable) = some item) :
    fields (.list items) = .error (.lacks item.typeName "strip") := by
  obtain ⟨untrimmable, before, after, rfl, trimmable⟩ := List.find?_eq_some_iff_append.mp found
  have earlier : ∀ other ∈ before, other.trimmed = .ok other.strip := fun other mem =>
    Value.trimmed_of_isTrimmable (by simpa using trimmable other mem)
  have failed : (before ++ item :: after).mapM Value.trimmed =
      .error (.lacks item.typeName "strip") :=
    mapM_append_error earlier (Value.trimmed_of_not_isTrimmable (by simpa using untrimmable))
  simp only [fields, Value.asText?, Value.items?, failed]
  rfl

/-- If all fields can be trimmed, the first byte sequence is reported by its position. -/
theorem fields_of_findIdx? (trimmable : ∀ item ∈ items, item.isTrimmable = true) {position : Nat}
    (found : items.findIdx? Value.isBytes = some position) :
    fields (.list items) = .error (.itemNotText position "bytes") := by
  obtain ⟨before, item, after, rfl, rfl, bytes, earlier⟩ := exists_cut_of_findIdx? found
  obtain ⟨noText, typeName⟩ := Value.not_isText_of_isBytes bytes
  have trimmed : (before ++ item :: after).mapM Value.trimmed =
      .ok (before.map Value.strip ++ item.strip :: after.map Value.strip) := by
    rw [mapM_of_forall_ok fun item mem => Value.trimmed_of_isTrimmable (trimmable item mem),
      List.map_append, List.map_cons]
  have texts : Value.texts (before.map Value.strip ++ item.strip :: after.map Value.strip) =
      .error (.itemNotText before.length "bytes") := by
    rw [Value.texts, Value.textsFrom_append_error 0 ?_ (by rw [Value.isText_strip, noText]),
      typeName, Nat.zero_add, List.length_map]
    rintro _ mem
    obtain ⟨other, given, rfl⟩ := List.mem_map.mp mem
    rw [Value.isText_strip]
    exact Value.isText_of_not_isBytes (trimmable other (List.mem_append_left _ given))
      (earlier other given)
  simp only [fields, Value.asText?, Value.items?, trimmed, bind, Except.bind, texts]
  rfl

theorem exists_fields_error_iff :
    (∃ failure, fields (.list items) = .error failure) ↔ ∃ item ∈ items, item.isText = false := by
  constructor
  · rintro ⟨failure, failed⟩
    by_contra refuted
    simp only [not_exists, not_and, Bool.not_eq_false] at refuted
    obtain ⟨sql, joined⟩ := fields_of_isText refuted
    rw [joined] at failed
    cases failed
  · rintro ⟨item, mem, noText⟩
    cases untrimmable : items.find? (fun item => !item.isTrimmable) with
    | some first => exact ⟨_, fields_of_find? untrimmable⟩
    | none =>
        have trimmable : ∀ item ∈ items, item.isTrimmable = true := by
          simpa using List.find?_eq_none.mp untrimmable
        cases bytes : items.findIdx? Value.isBytes with
        | some position => exact ⟨_, fields_of_findIdx? trimmable bytes⟩
        | none =>
            have isBytes := Value.isBytes_of_not_isText (trimmable item mem) noText
            rw [List.findIdx?_eq_none_iff.mp bytes item mem] at isBytes
            cases isBytes

variable {quoter : Quoter} {quote : String → String} {assignments : Entries}

theorem exists_insertion_error_iff (computes : quoter.Computes quote) :
    (∃ failure, insertion quoter assignments = .error failure) ↔
      ∃ key ∈ assignments.keys, key.isText = false := by
  rw [Template.insertion_eq computes]
  constructor
  · rintro ⟨failure, failed⟩
    by_contra refuted
    simp only [not_exists, not_and, Bool.not_eq_false] at refuted
    rw [Template.insertion, Value.texts, Value.textsFrom_of_isText 0 refuted] at failed
    cases failed
  · rintro ⟨key, mem, noText⟩
    have present : (assignments.keys.findIdx? fun key => !key.isText).isSome = true := by
      rw [List.findIdx?_isSome]
      exact List.any_eq_true.mpr ⟨key, mem, by rw [noText]; rfl⟩
    obtain ⟨position, found⟩ := Option.isSome_iff_exists.mp present
    obtain ⟨before, item, after, cut, -, other, earlier⟩ := exists_cut_of_findIdx? found
    have failed : Value.textsFrom 0 (before ++ item :: after) =
        .error (.itemNotText (0 + before.length) item.typeName) :=
      Value.textsFrom_append_error 0 (fun other mem => by simpa using earlier other mem)
        (by simpa using other)
    rw [Template.insertion, Value.texts, cut, failed]
    exact ⟨_, rfl⟩

theorem exists_update (computes : quoter.Computes quote) (assignments : Entries) :
    ∃ pairs, assignments.mapM (assigned quoter) = .ok pairs :=
  ⟨_, mapM_of_forall_ok fun entry _ => Template.assigned_eq computes entry⟩

end Clause

namespace Statement

variable {statement : Statement} {quoter : Quoter} {quote : String → String}

/-- The statement selects fields or inserts columns of which one is no text. -/
def Unrenderable (statement : Statement) : Prop :=
  (statement.kind = some .select ∧
    ∃ items, statement.projection = .list items ∧ ∃ item ∈ items, item.isText = false) ∨
  (statement.kind = some .insert ∧ ∃ key ∈ statement.assignments.keys, key.isText = false)

theorem assemble_of_projection_error {failure : Failure}
    (failed : Clause.projection statement = .error failure) :
    statement.assemble quoter = .error failure := by
  rw [assemble, clauses, failed]
  rfl

theorem assemble_of_assignment_error {failure : Failure} {clause : Option String}
    (rendered : Clause.projection statement = .ok clause)
    (failed : Clause.assignment quoter statement = .error failure) :
    statement.assemble quoter = .error failure := by
  rw [assemble, clauses, rendered, failed]
  rfl

theorem exists_assemble {projection assignment : Option String}
    (rendered : Clause.projection statement = .ok projection)
    (assigned : Clause.assignment quoter statement = .ok assignment) :
    ∃ sql, statement.assemble quoter = .ok sql := by
  rw [assemble, clauses, rendered, assigned]
  exact ⟨_, rfl⟩

theorem assignment_of_select (selects : statement.kind = some .select) :
    Clause.assignment quoter statement = .ok none :=
  assignment_of_not_assigns quoter (by
    rw [selects]
    exact Bool.false_ne_true)

/-- Nothing but the kind and the fields matter to the field list. -/
theorem projection_congr {other : Statement} (kind : other.kind = statement.kind)
    (fields : other.projection = statement.projection) :
    Clause.projection other = Clause.projection statement := by
  rw [Clause.projection, Clause.projection, kind, fields]

theorem assemble_eq_error_iff_of_select (selects : statement.kind = some .select)
    {failure : Failure} :
    statement.assemble quoter = .error failure ↔ Clause.projection statement = .error failure := by
  refine ⟨fun failed => ?_, assemble_of_projection_error⟩
  cases shown : Clause.projection statement with
  | error other =>
      rw [assemble_of_projection_error shown] at failed
      rw [Except.error.inj failed]
  | ok clause =>
      obtain ⟨sql, assembled⟩ := exists_assemble shown (assignment_of_select selects)
      rw [assembled] at failed
      cases failed

theorem assemble_eq_error_iff_of_list (selects : statement.kind = some .select)
    {items : List Value} (kept : statement.projection = .list items)
    (listed : IsSelection statement.projection) {failure : Failure} :
    statement.assemble quoter = .error failure ↔ Clause.fields (.list items) = .error failure := by
  rw [assemble_eq_error_iff_of_select selects, projection_of_select selects listed, kept]
  cases Clause.fields (.list items) <;> simp [Except.map]

theorem exists_assemble_error_iff_of_select (selects : statement.kind = some .select)
    (coherent : statement.Coherent) :
    (∃ failure, statement.assemble quoter = .error failure) ↔
      ∃ items, statement.projection = .list items ∧ ∃ item ∈ items, item.isText = false := by
  simp only [assemble_eq_error_iff_of_select selects]
  rcases coherent.projection with null | ⟨-, kept⟩
  · simp [Clause.projection, null, Value.isTruthy]
  · rw [projection_of_select selects kept]
    generalize statement.projection = projection at kept
    cases kept with
    | text content nonempty => simp [Clause.fields, Value.asText?, Except.map]
    | list items nonempty =>
        simp only [Value.list.injEq, exists_eq_left', ← Clause.exists_fields_error_iff]
        cases Clause.fields (.list items) <;> simp [Except.map]

theorem exists_assemble_error_iff_of_insert (computes : quoter.Computes quote)
    (inserts : statement.kind = some .insert) :
    (∃ failure, statement.assemble quoter = .error failure) ↔
      ∃ key ∈ statement.assignments.keys, key.isText = false := by
  have noFields : Clause.projection statement = .ok none :=
    projection_of_ne_select (by
      rw [inserts]
      exact fun same => by cases same)
  by_cases nothing : statement.assignments = []
  · obtain ⟨sql, assembled⟩ := exists_assemble noFields (assignment_of_nil quoter nothing)
    rw [assembled, nothing]
    exact iff_of_false (fun ⟨_, failed⟩ => by cases failed) (fun ⟨_, mem, _⟩ => by cases mem)
  rw [← Clause.exists_insertion_error_iff computes]
  have clause := assignment_of_insert quoter inserts nothing
  cases shown : Clause.insertion quoter statement.assignments with
  | error failure =>
      rw [assemble_of_assignment_error noFields (by rw [clause, shown]; rfl)]
  | ok sql =>
      obtain ⟨sql, assembled⟩ := exists_assemble noFields (by rw [clause, shown]; rfl)
      rw [assembled]
      exact iff_of_false (fun ⟨_, failed⟩ => by cases failed) (fun ⟨_, failed⟩ => by cases failed)

theorem exists_assemble_of_insert (computes : quoter.Computes quote)
    (inserts : statement.kind = some .insert)
    (texts : ∀ key ∈ statement.assignments.keys, key.isText = true) :
    ∃ sql, statement.assemble quoter = .ok sql := by
  cases rendered : statement.assemble quoter with
  | ok sql => exact ⟨sql, rfl⟩
  | error failure =>
      obtain ⟨key, mem, noText⟩ :=
        (exists_assemble_error_iff_of_insert computes inserts).mp ⟨failure, rendered⟩
      rw [texts key mem] at noText
      cases noText

theorem setValues_of_assigns (assigns : statement.kind.any Kind.assigns = true) {values : Value}
    {assignments : Entries} (read : Entries.ofValue values = .ok assignments) :
    statement.setValues values = .accepted { statement with assignments } := by
  rw [setValues, if_pos assigns, read]
  rfl

/-- Assembling a statement that a run can lead to fails in two cases. -/
theorem exists_assemble_error_iff (coherent : statement.Coherent)
    (computes : quoter.Computes quote) :
    (∃ failure, statement.assemble quoter = .error failure) ↔ statement.Unrenderable := by
  by_cases inserts : statement.kind = some .insert
  · rw [exists_assemble_error_iff_of_insert computes inserts, Unrenderable, inserts]
    simp
  by_cases selects : statement.kind = some .select
  · rw [exists_assemble_error_iff_of_select selects coherent, Unrenderable, selects]
    simp
  have noFields : Clause.projection statement = .ok none := projection_of_ne_select selects
  have columns : ∃ clause, Clause.assignment quoter statement = .ok clause := by
    rcases coherent.assignments with nothing | assigns
    · exact ⟨none, assignment_of_nil quoter nothing⟩
    by_cases nothing : statement.assignments = []
    · exact ⟨none, assignment_of_nil quoter nothing⟩
    have updates := (insert_or_update_of_assigns assigns).resolve_left inserts
    obtain ⟨pairs, rendered⟩ := Clause.exists_update computes statement.assignments
    rw [assignment_of_update quoter updates nothing, rendered]
    exact ⟨_, rfl⟩
  obtain ⟨clause, assigned⟩ := columns
  obtain ⟨sql, assembled⟩ := exists_assemble noFields assigned
  rw [assembled, Unrenderable]
  simp [inserts, selects]

end Statement

namespace Builder

/-- Assigned columns stay until columns are assigned anew. -/
theorem assignments_reassigned (builder : Builder) {values : Value} {assignments : Entries}
    (assigned : (builder.statement.setValues values).statement =
      { builder.statement with assignments })
    {later : List Call} (untouched : ∀ other, .values other ∉ later) :
    (builder.run (.values values :: later)).statement.assignments = assignments := by
  rw [run_cons]
  rcases (builder.apply (.values values)).assignments_run_cases later with same | ⟨other, made, -⟩
  · rw [same]
    exact congrArg Statement.assignments assigned
  · exact absurd made (untouched other)

variable {quoter : Quoter} {quote : String → String}

theorem assemble_of_list {builder : Builder} (coherent : builder.statement.Coherent)
    (selects : builder.statement.kind = some .select) {items : List Value}
    (kept : builder.statement.projection = .list items) :
    (∀ item, items.find? (fun item => !item.isTrimmable) = some item →
      builder.assemble = .error (.lacks item.typeName "strip")) ∧
    (items.find? (fun item => !item.isTrimmable) = none →
      ∀ position, items.findIdx? Value.isBytes = some position →
        builder.assemble = .error (.itemNotText position "bytes")) := by
  have present : builder.statement.projection ≠ .null := by
    rw [kept]
    exact fun same => by cases same
  have listed := (coherent.projection.resolve_left present).2
  have fails (failure : Failure) : builder.assemble = .error failure ↔
      Clause.fields (.list items) = .error failure :=
    Statement.assemble_eq_error_iff_of_list selects kept listed
  constructor
  · exact fun item found => (fails _).mpr (Clause.fields_of_find? found)
  · intro trimmable position found
    refine (fails _).mpr (Clause.fields_of_findIdx? (fun item mem => ?_) found)
    have shown := List.find?_eq_none.mp trimmable item mem
    rwa [Bool.not_eq_true', Bool.not_eq_false] at shown

theorem assemble_run_of_select {builder : Builder}
    (selects : builder.statement.kind = some .select) {failure : Failure}
    (failed : builder.assemble = .error failure) (further : List Call) :
    (builder.run further).assemble = .error failure := by
  obtain ⟨still, fields⟩ := (builder.extends_run further).settled _ selects
  rw [assemble, Statement.assemble_eq_error_iff_of_select selects] at failed
  rw [assemble, Statement.assemble_eq_error_iff_of_select still, ← failed]
  exact Statement.projection_congr (still.trans selects.symm) fields

theorem assemble_run_of_insert (computes : quoter.Computes quote) {builder : Builder}
    (sameQuoter : builder.quoter = quoter) (inserts : builder.statement.kind = some .insert)
    (further : List Call) {values : Value} {assignments : Entries}
    (read : Entries.ofValue values = .ok assignments)
    (texts : ∀ key ∈ assignments.keys, key.isText = true) :
    ((builder.run further).effect (.values values)).failure = none ∧
      ∀ later, (∀ other, .values other ∉ later) →
        ∃ sql, (builder.run (further ++ .values values :: later)).assemble = .ok sql := by
  have still := ((builder.extends_run further).settled _ inserts).1
  have step := Statement.setValues_of_assigns (by rw [still]; rfl) read
  constructor
  · rw [effect, Statement.step, step]
    rfl
  · intro later untouched
    have kind := ((builder.extends_run (further ++ .values values :: later)).settled _ inserts).1
    have columns := (builder.run further).assignments_reassigned (congrArg Effect.statement step)
      untouched
    rw [← run_append] at columns
    rw [assemble, quoter_run, sameQuoter]
    exact Statement.exists_assemble_of_insert computes kind (by rwa [columns])

/-- Rendering fails after a run exactly if it is a selection with a field that is no text, or an
insertion with a column that is no text.  In a selection the first field that cannot be trimmed is
reported, and otherwise the first byte sequence, which can be trimmed but is no text; the same
failure is reported whatever is called afterwards.  An insertion is rendered again as soon as
columns that are texts are assigned, and until columns are assigned anew. -/
theorem assemble_run_error_iff (computes : quoter.Computes quote) (options : Options)
    (calls : List Call) :
    let builder := ({ quoter, options } : Builder).run calls
    (builder.statement.Unrenderable → ∃ failure, builder.assemble = .error failure) ∧
    (¬ builder.statement.Unrenderable → ∃ sql, builder.assemble = .ok sql) ∧
    (∀ items, builder.statement.kind = some .select → builder.statement.projection = .list items →
      (∀ item, items.find? (fun item => !(item.isText || item.isBytes)) = some item →
        builder.assemble = .error (.lacks item.typeName "strip")) ∧
      (items.find? (fun item => !(item.isText || item.isBytes)) = none →
        ∀ position, items.findIdx? Value.isBytes = some position →
          builder.assemble = .error (.itemNotText position "bytes"))) ∧
    (builder.statement.kind = some .select → ∀ failure, builder.assemble = .error failure →
      ∀ further, (builder.run further).assemble = .error failure) ∧
    (builder.statement.kind = some .insert → ∀ further values assignments,
      Entries.ofValue values = .ok assignments → (∀ key ∈ assignments.keys, key.isText = true) →
        ((builder.run further).effect (.values values)).failure = none ∧
        ∀ later, (∀ other, .values other ∉ later) →
          ∃ sql, (builder.run (further ++ .values values :: later)).assemble = .ok sql) := by
  intro builder
  have coherent : builder.statement.Coherent := coherent_run Statement.coherent_empty calls
  have sameQuoter : builder.quoter = quoter := quoter_run _ calls
  have fails_iff := Statement.exists_assemble_error_iff coherent computes
  rw [← sameQuoter] at fails_iff
  refine ⟨fails_iff.mpr, ?_, ?_, ?_, ?_⟩
  · intro renderable
    cases rendered : builder.assemble with
    | ok sql => exact ⟨sql, rfl⟩
    | error failure => exact absurd (fails_iff.mp ⟨failure, rendered⟩) renderable
  · exact fun items selects kept => assemble_of_list coherent selects kept
  · exact fun selects failure failed further => assemble_run_of_select selects failed further
  · exact fun inserts further values assignments read texts =>
      assemble_run_of_insert computes sameQuoter inserts further read texts

/-- The number among the fields is reported though a byte sequence comes before it, and it is
reported still when other fields have been asked for. -/
theorem assemble_mixed_fields :
    let builder := ({ quoter := .ansi, options := .default } : Builder).run
      [.select (.list [.text "a", .bytes [98], .int 5])]
    builder.assemble = .error (.lacks "int" "strip") ∧
      (builder.run [.select (.text "c"), .table (.text "t")]).assemble =
        .error (.lacks "int" "strip") := by
  have computes : Quoter.ansi.Computes (Quoter.enclose Quoter.escapeQuote) :=
    Quoter.computes_ofFunction _ _
  obtain ⟨-, -, fails, stays, -⟩ := assemble_run_error_iff computes .default
    [.select (.list [.text "a", .bytes [98], .int 5])]
  have failed := (fails _ rfl rfl).1 (.int 5) rfl
  exact ⟨failed, stays rfl _ failed _⟩

end Builder
end SqlDraft
