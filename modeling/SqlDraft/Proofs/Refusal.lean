import SqlDraft.Proofs.Kind

/-!
# Refused calls

A refused call leaves the statement as it was.  Every call decides whether it is refused before it
writes anything, with one exception: a selection sets the kind before it looks at its fields, so
fields that cannot be iterated are refused by a statement that has become a selection without any.
A call that gives several conditions or order terms is refused as a whole if one of them is.
-/

namespace SqlDraft

namespace Effect

variable {α : Type} {statement : Statement} {value : Except Failure α} {update : α → Statement}

theorem statement_change (refused : (change statement value update).failure.isSome = true) :
    (change statement value update).statement = statement := by
  cases value with
  | ok value => cases refused
  | error failure => rfl

theorem change_error {failure : Failure} (missing : value = .error failure) :
    change statement value update = refused statement failure [] := by
  rw [missing]
  rfl

end Effect

/-- A sequence that has an item with a failure fails, though perhaps at an earlier item. -/
theorem exists_mapM_eq_error {α β : Type} (function : α → Except Failure β) {items : List α}
    {item : α} (mem : item ∈ items) {failure : Failure} (fails : function item = .error failure) :
    ∃ first, items.mapM function = .error first := by
  induction items with
  | nil => cases mem
  | cons head items ih =>
      rw [List.mapM_cons]
      cases made : function head with
      | error first => exact ⟨first, rfl⟩
      | ok result =>
          rcases List.mem_cons.mp mem with rfl | mem
          · rw [fails] at made
            cases made
          · obtain ⟨first, rest⟩ := ih mem
            exact ⟨first, by rw [rest]; rfl⟩

namespace Statement

variable {quoter : Quoter} {options : Options} {statement : Statement} {call : Call}

/-- The call selects fields that count as true, but are neither a text nor can be iterated, before
any kind is set. -/
def StopsHalfway (statement : Statement) (call : Call) : Prop :=
  statement.kind = none ∧
    ∃ fields : Value, call = .select fields ∧ fields.isTruthy = true ∧ fields.asText? = none ∧
      fields.items? = none

theorem selection_of_unlistable {fields : Value} (noText : fields.asText? = none)
    (noItems : fields.items? = none) :
    selection fields = .error (.notIterable fields.typeName) := by
  simp only [selection, noText, noItems]

/-- Fields are kept unless they are neither a text nor can be iterated. -/
theorem unlistable_of_selection {fields : Value} {failure : Failure}
    (refused : selection fields = .error failure) :
    fields.asText? = none ∧ fields.items? = none := by
  unfold selection at refused
  split at refused
  · cases refused
  · cases refused
  · exact ⟨by assumption, by assumption⟩

theorem step_of_stopsHalfway (quoter : Quoter) (options : Options)
    (halfway : statement.StopsHalfway call) :
    ∃ typeName, statement.step quoter options call =
      .refused { statement with kind := some .select } (.notIterable typeName) [] := by
  obtain ⟨unset, fields, rfl, truthy, noText, noItems⟩ := halfway
  refine ⟨fields.typeName, ?_⟩
  rw [step, select_of_unset fields unset, if_pos truthy]
  exact Effect.change_error (selection_of_unlistable noText noItems)

/-- A call that does not stop halfway is refused before it writes anything. -/
theorem statement_step_of_refused (whole : ¬ statement.StopsHalfway call)
    (refused : (statement.step quoter options call).failure.isSome = true) :
    (statement.step quoter options call).statement = statement := by
  cases call with
  | setKind value =>
      rcases statement.statement_setKind value with same | ⟨kind, unset, named, -⟩
      · exact same
      · rw [step, setKind_of_unset named unset] at refused
        cases refused
  | select fields =>
      cases unset : statement.kind with
      | some current =>
          rw [step, select_of_set fields unset]
          rfl
      | none =>
          rw [step, select_of_unset fields unset] at refused
          split at refused
          · rename_i truthy
            cases kept : selection fields with
            | ok projection =>
                rw [kept] at refused
                cases refused
            | error failure =>
                obtain ⟨noText, noItems⟩ := unlistable_of_selection kept
                exact absurd ⟨unset, fields, rfl, truthy, noText, noItems⟩ whole
          · cases refused
  | values values =>
      rw [step, setValues] at refused ⊢
      by_cases assigns : statement.kind.any Kind.assigns = true
      · rw [if_pos assigns] at refused ⊢
        exact Effect.statement_change refused
      · rw [if_neg assigns]
        rfl
  | table | groupBy | limit | offset => cases refused
  | join | filter | having | orderBy => exact Effect.statement_change refused

/-- The effect is that of a refused call which leaves the statement as it was. -/
def Withstands (statement : Statement) (effect : Effect) : Prop :=
  effect.failure.isSome = true ∧ effect.statement = statement

theorem withstands_change {α : Type} {value : Except Failure α} {failure : Failure}
    (missing : value = .error failure) (update : α → Statement) :
    statement.Withstands (.change statement value update) := by
  rw [Effect.change_error missing]
  exact ⟨rfl, rfl⟩

theorem withstands_having {expression item value entry : Value}
    (paired : (item, entry) ∈ expression.asList.zip value.asList) {failure : Failure}
    (fails : Having.substitute quoter options.placeholder item.display entry = .error failure)
    (additive : Value) :
    statement.Withstands
      (statement.step quoter options (.having expression (some value) additive)) := by
  obtain ⟨first, refused⟩ := exists_mapM_eq_error
    (fun pair : Value × Value => do
      let expression ← Having.substitute quoter options.placeholder pair.1.display pair.2
      .ok (⟨.ofFlag additive, expression⟩ : Having))
    paired (by simp only [fails]; rfl)
  exact withstands_change refused _

theorem withstands_orderBy {fields field directions direction : Value}
    (paired : (field, direction) ∈ fields.asList.zip directions.asList) {failure : Failure}
    (fails : (OrderTerm.check (some (.text field.display))
      (direction.orElse (.text ""))).outcome .orderTerm = .error failure) :
    statement.Withstands (statement.step quoter options (.orderBy fields directions)) := by
  obtain ⟨first, refused⟩ := exists_mapM_eq_error
    (fun pair : Value × Value =>
      (OrderTerm.check (some (.text pair.1.display))
        (pair.2.orElse (.text ""))).outcome .orderTerm)
    paired fails
  exact withstands_change refused _

theorem withstands_values {values : Value} {failure : Failure}
    (fails : Entries.ofValue values = .error failure) :
    statement.Withstands (statement.step quoter options (.values values)) := by
  rw [step, setValues]
  split
  · exact withstands_change fails _
  · exact ⟨rfl, rfl⟩

end Statement

/-- A refused call leaves the statement as it was, whatever the run before it, unless it is a
selection that stops halfway.  Such a selection is always refused; it sets the kind, and no fields
are selected before or after it.  Entries of one call are refused together: a condition on groups
without its literal, an order term without its direction and an assignment that is no pair each take
the whole call with them. -/
theorem Builder.withstands_refused (quoter : Quoter) (options : Options) (calls : List Call) :
    let builder := ({ quoter, options } : Builder).run calls
    (∀ call, ¬ builder.statement.StopsHalfway call →
      (builder.effect call).failure.isSome = true →
        (builder.effect call).statement = builder.statement) ∧
    (∀ call, builder.statement.StopsHalfway call →
      (builder.effect call).failure.isSome = true ∧
        (builder.effect call).statement = { builder.statement with kind := some .select } ∧
        builder.statement.projection = .null) ∧
    (∀ (expression item value entry additive : Value) (failure : Failure),
      (item, entry) ∈ expression.asList.zip value.asList →
        Having.substitute quoter options.placeholder item.display entry = .error failure →
          builder.statement.Withstands
            (builder.effect (.having expression (some value) additive))) ∧
    (∀ (fields field directions direction : Value) (failure : Failure),
      (field, direction) ∈ fields.asList.zip directions.asList →
        (OrderTerm.check (some (.text field.display))
          (direction.orElse (.text ""))).outcome .orderTerm = .error failure →
          builder.statement.Withstands (builder.effect (.orderBy fields directions))) ∧
    (∀ (values : Value) (failure : Failure), Entries.ofValue values = .error failure →
      builder.statement.Withstands (builder.effect (.values values))) := by
  intro builder
  have sameQuoter : builder.quoter = quoter := quoter_run _ calls
  have sameOptions : builder.options = options := options_run _ calls
  have coherent : builder.statement.Coherent := coherent_run Statement.coherent_empty calls
  refine ⟨?_, ?_, ?_, ?_, ?_⟩
  · intro call whole refused
    exact Statement.statement_step_of_refused whole refused
  · intro call halfway
    obtain ⟨typeName, effect⟩ := Statement.step_of_stopsHalfway builder.quoter builder.options
      halfway
    have unselected := (coherent.unset halfway.1).1
    rw [Builder.effect, effect]
    exact ⟨rfl, rfl, unselected⟩
  · intro expression item value entry additive failure paired fails
    rw [← sameQuoter, ← sameOptions] at fails
    exact Statement.withstands_having paired fails additive
  · intro fields field directions direction failure paired fails
    exact Statement.withstands_orderBy paired fails
  · intro values failure fails
    exact Statement.withstands_values fails

/-- A quoter that refuses the empty text. -/
def Quoter.nonempty : Quoter where
  dialect := "nonempty"
  quoteText := fun content =>
    if content.isEmpty then .error (.general "nothing to quote")
    else .ok (.text (enclose escapeQuote content))

/-- The condition with the first value is not added because there is no literal for the second one,
and a number that is selected leaves a selection without fields. -/
theorem withstands_missing_literal :
    let builder := ({ quoter := .nonempty, options := .default } : Builder).run
      [.having (.text "MAX(a) > ?") (some (.text "x")) (.bool true)]
    builder.statement.Withstands (builder.effect
      (.having (.list [.text "b > ?", .text "c > ?"]) (some (.tuple [.text "y", .null])) .null)) ∧
    (builder.effect (.select (.int 5))).statement =
      { builder.statement with kind := some .select } := by
  obtain ⟨-, halfway, having, -⟩ := Builder.withstands_refused .nonempty .default
    [.having (.text "MAX(a) > ?") (some (.text "x")) (.bool true)]
  constructor
  · exact having _ (.text "c > ?") _ .null .null (.general "nothing to quote")
      (List.mem_cons_of_mem _ List.mem_cons_self) rfl
  · exact (halfway (.select (.int 5)) ⟨rfl, .int 5, rfl, rfl, rfl, rfl⟩).2.1

end SqlDraft
