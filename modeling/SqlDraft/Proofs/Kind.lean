import SqlDraft.Proofs.Category

/-!
# Calls about the kind

The kind of a statement is set once, and selected fields and assigned columns come only with a kind
that has a place for them.  `statement_setKind`, `statement_select` and `setValues_cases` say all
that the calls of this category can do to a statement; the invariant of all runs follows.
-/

namespace SqlDraft
namespace Statement

variable {statement : Statement}

theorem kindOf?_eq_some_iff {value : Value} {kind : Kind} :
    kindOf? value = some kind ↔ value.asText? = some kind.name := by
  unfold kindOf?
  constructor
  · intro named
    obtain ⟨name, shown, found⟩ := Option.bind_eq_some_iff.mp named
    have same := List.find?_some found
    rw [shown, ← eq_of_beq same]
  · intro shown
    rw [shown]
    exact Kind.ofName?_name kind

theorem kindOf?_kind (kind : Kind) : kindOf? (.kind kind) = some kind :=
  kindOf?_eq_some_iff.mpr rfl

theorem setKind_of_unset {value : Value} {requested : Kind} (named : kindOf? value = some requested)
    (unset : statement.kind = none) :
    statement.setKind value = .accepted { statement with kind := some requested } := by
  simp only [setKind, named, unset]

theorem setKind_of_set {value : Value} {requested current : Kind}
    (named : kindOf? value = some requested) (set : statement.kind = some current) :
    statement.setKind value =
      .refused statement (.statement (.alreadySet current.name requested.name))
        [.rejectedKind requested current] := by
  simp only [setKind, named, set]

theorem setKind_of_unknown {value : Value} (unknown : kindOf? value = none) :
    statement.setKind value = .refused statement (.unknownKind value) [] := by
  simp only [setKind, unknown]

/-- A selection sets the kind first, and then it keeps the fields if they count as true. -/
theorem select_of_unset (fields : Value) (unset : statement.kind = none) :
    statement.select fields =
      if fields.isTruthy then
        .change { statement with kind := some .select } (selection fields) fun projection =>
          { statement with kind := some .select, projection }
      else
        .accepted { statement with kind := some .select } := by
  simp only [select, setKind_of_unset (kindOf?_kind .select) unset]
  rfl

theorem select_of_set (fields : Value) {current : Kind} (set : statement.kind = some current) :
    statement.select fields =
      .refused statement (.statement (.alreadySet current.name Kind.select.name))
        [.rejectedKind .select current] := by
  simp only [select, setKind_of_set (kindOf?_kind .select) set]
  rfl

variable (statement)

theorem statement_setKind (value : Value) :
    (statement.setKind value).statement = statement ∨
      ∃ kind, statement.kind = none ∧ kindOf? value = some kind ∧
        (statement.setKind value).statement = { statement with kind := some kind } := by
  cases named : kindOf? value with
  | none => exact Or.inl (by rw [setKind_of_unknown named]; rfl)
  | some requested =>
      cases unset : statement.kind with
      | none => exact Or.inr ⟨requested, rfl, rfl, by rw [setKind_of_unset named unset]; rfl⟩
      | some current => exact Or.inl (by rw [setKind_of_set named unset]; rfl)

/-- A selection that is not refused because of the kind sets it, and keeps the fields if there are
any and they can be iterated. -/
theorem statement_select (fields : Value) :
    (statement.select fields).statement = statement ∨
      statement.kind = none ∧
        ((statement.select fields).statement = { statement with kind := some .select } ∨
          ∃ projection, fields.isTruthy = true ∧ selection fields = .ok projection ∧
            (statement.select fields).statement =
              { statement with kind := some .select, projection }) := by
  cases unset : statement.kind with
  | some kind => exact Or.inl (by rw [select_of_set fields unset]; rfl)
  | none =>
      refine Or.inr ⟨rfl, ?_⟩
      rw [select_of_unset fields unset]
      cases truthy : fields.isTruthy <;> cases kept : selection fields <;>
        simp [Effect.accepted, Effect.change, Effect.refused]

/-- Columns are assigned if the kind has a place for them and the value gives any. -/
theorem setValues_cases (values : Value) :
    (∃ failure notes, statement.setValues values = .refused statement failure notes) ∨
      ∃ assignments, statement.kind.any Kind.assigns = true ∧
        Entries.ofValue values = .ok assignments ∧
        statement.setValues values = .accepted { statement with assignments } := by
  unfold setValues
  split
  · cases read : Entries.ofValue values with
    | error failure => exact Or.inl ⟨failure, [], rfl⟩
    | ok assignments => exact Or.inr ⟨assignments, by assumption, rfl, rfl⟩
  · exact Or.inl ⟨_, _, rfl⟩

/-- The other calls keep the kind, the selected fields and the assigned columns. -/
theorem kind_step_of_ne (quoter : Quoter) (options : Options) {call : Call}
    (other : call.category ≠ .kind) :
    (statement.step quoter options call).statement.kind = statement.kind ∧
      (statement.step quoter options call).statement.projection = statement.projection ∧
      (statement.step quoter options call).statement.assignments = statement.assignments := by
  have kept := only_step_of_ne quoter options statement (Ne.symm other)
  have kindKept := congrArg kind kept
  have projectionKept := congrArg projection kept
  have assignmentsKept := congrArg assignments kept
  exact ⟨kindKept, projectionKept, assignmentsKept⟩

/-- A value that is kept as the selected fields: a text or a list that is not empty. -/
inductive IsSelection : Value → Prop
  | text (content : String) (nonempty : content ≠ "") : IsSelection (.text content)
  | list (items : List Value) (nonempty : items ≠ []) : IsSelection (.list items)

theorem isSelection_of_selection {fields projection : Value} (truthy : fields.isTruthy = true)
    (kept : selection fields = .ok projection) : IsSelection projection := by
  cases fields with
  | text content =>
      obtain rfl : Value.text content = projection := by simpa [selection, Value.asText?] using kept
      exact .text content (by simpa [Value.isTruthy] using truthy)
  | kind which =>
      obtain rfl : Value.text which.name = projection := by
        simpa [selection, Value.asText?] using kept
      exact .text which.name (by cases which <;> decide)
  | bytes content | list content | tuple content | dict content =>
      simp only [selection, Value.asText?, Value.items?, Except.ok.injEq] at kept
      subst kept
      exact .list _ (by simpa [Value.isTruthy] using truthy)
  | _ => simp [selection, Value.asText?, Value.items?] at kept

/-- Fields are selected and columns are assigned only in statements of a kind that has a place for
them. -/
structure Coherent : Prop where
  /-- Selected fields belong to a selection. -/
  projection : statement.projection = .null ∨
    statement.kind = some .select ∧ IsSelection statement.projection
  /-- Assigned columns belong to an insertion or an update. -/
  assignments : statement.assignments = [] ∨ statement.kind.any Kind.assigns = true

theorem coherent_empty : Statement.empty.Coherent := ⟨Or.inl rfl, Or.inl rfl⟩

variable {statement}

theorem Coherent.unset (coherent : statement.Coherent) (unset : statement.kind = none) :
    statement.projection = .null ∧ statement.assignments = [] := by
  obtain ⟨projection, assignments⟩ := coherent
  simp_all

theorem coherent_step (coherent : statement.Coherent) (quoter : Quoter) (options : Options)
    (call : Call) : (statement.step quoter options call).statement.Coherent := by
  by_cases about : call.category = .kind
  · cases call with
    | setKind value =>
        rcases statement.statement_setKind value with same | ⟨kind, unset, -, set⟩
        · simp only [step, same]
          exact coherent
        · obtain ⟨noFields, noColumns⟩ := coherent.unset unset
          simp only [step, set]
          exact ⟨Or.inl noFields, Or.inl noColumns⟩
    | select fields =>
        rcases statement.statement_select fields with
          same | ⟨unset, set | ⟨projection, truthy, kept, set⟩⟩
        · simp only [step, same]
          exact coherent
        · obtain ⟨noFields, noColumns⟩ := coherent.unset unset
          simp only [step, set]
          exact ⟨Or.inl noFields, Or.inl noColumns⟩
        · obtain ⟨-, noColumns⟩ := coherent.unset unset
          simp only [step, set]
          exact ⟨Or.inr ⟨rfl, isSelection_of_selection truthy kept⟩, Or.inl noColumns⟩
    | values values =>
        rcases statement.setValues_cases values with
          ⟨failure, notes, refused⟩ | ⟨assignments, assigns, -, set⟩
        · simp only [step, refused]
          exact coherent
        · simp only [step, set]
          exact ⟨coherent.projection, Or.inr assigns⟩
    | _ => cases about
  · obtain ⟨kind, projection, assignments⟩ := statement.kind_step_of_ne quoter options about
    exact ⟨by rw [projection, kind]; exact coherent.projection,
      by rw [assignments, kind]; exact coherent.assignments⟩

end Statement

theorem Builder.coherent_run {builder : Builder} (coherent : builder.statement.Coherent)
    (calls : List Call) : (builder.run calls).statement.Coherent := by
  induction calls generalizing builder with
  | nil => exact coherent
  | cons call calls ih => exact ih (Statement.coherent_step coherent _ _ call)

end SqlDraft
