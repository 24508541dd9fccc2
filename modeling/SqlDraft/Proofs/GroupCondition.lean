import SqlDraft.Builder.Basic
import SqlDraft.Proofs.Category
import SqlDraft.Proofs.Operand
import SqlDraft.Proofs.Segmentation
import SqlDraft.Proofs.Settings

/-!
# Conditions on groups

A call for conditions on groups adds one condition for each of its expressions that has a value, or
for each of its expressions if no value is given.  The literal of the value stands between the
segments of the expression, and is not looked at again.  A call that gives several expressions
leaves the same builder as one call for each of them.
-/

namespace SqlDraft

namespace Value

/-- The value is a list or a tuple. -/
def isSequence : Value → Bool
  | list _ | tuple _ => true
  | _ => false

/-- The value is a list or a tuple of the given items. -/
def HasItems (value : Value) (items : List Value) : Prop :=
  value = .list items ∨ value = .tuple items

variable {value : Value} {items : List Value}

theorem HasItems.asList_eq (hasItems : value.HasItems items) : value.asList = items := by
  obtain rfl | rfl := hasItems <;> rfl

theorem asList_of_not_isSequence (single : value.isSequence = false) : value.asList = [value] := by
  cases value with
  | list | tuple => cases single
  | _ => rfl

end Value

namespace Having

/-- The condition of an expression with its value, if it has one. -/
def ofSource (quote : String → String) (placeholder : String) (additive : Value)
    (source : String × Option Value) : Having :=
  ⟨.ofFlag additive, (template placeholder source).fill quote⟩

theorem ofSource_none (quote : String → String) (placeholder expression : String)
    (additive : Value) :
    ofSource quote placeholder additive (expression, none) = ⟨.ofFlag additive, expression⟩ := by
  simp [ofSource, template]

theorem ofSource_some (quote : String → String) (placeholder expression : String)
    (value additive : Value) :
    ofSource quote placeholder additive (expression, some value) =
      ⟨.ofFlag additive, Text.replaceAll expression placeholder (quote value.content)⟩ := by
  rw [ofSource, fill_template_some]

theorem sources_single {expression : Value} (single : expression.isSequence = false) :
    sources expression none = [(expression.display, none)] ∧
      ∀ value rest, sources expression (some (value :: rest)) =
        [(expression.display, some value)] := by
  simp [sources, Value.asList_of_not_isSequence single]

theorem sources_of_hasItems {expressions : Value} {items : List Value}
    (hasItems : expressions.HasItems items) :
    sources expressions none = items.map (fun item => (item.display, none)) ∧
      ∀ entries, sources expressions (some entries) =
        (items.zip entries).map fun pair => (pair.1.display, some pair.2) := by
  simp [sources, hasItems.asList_eq]

end Having

/-- The statement with further conditions on groups. -/
def Statement.withGroups (statement : Statement) (conditions : List Having) : Statement :=
  { statement with having := statement.having ++ conditions }

namespace Builder

/-- The builder with further conditions on groups in its statement. -/
def withGroups (builder : Builder) (conditions : List Having) : Builder :=
  { builder with statement := builder.statement.withGroups conditions }

variable {builder : Builder} {quote : String → String}

/-- A quoter that never fails lets a call for conditions on groups add its conditions. -/
theorem effect_having (computes : builder.quoter.Computes quote) (expression : Value)
    (value : Option Value) (additive : Value) :
    builder.effect (.having expression value additive) =
      .accepted (builder.statement.withGroups
        ((Having.sources expression (value.map Value.asList)).map
          (Having.ofSource quote builder.options.placeholder additive))) := by
  rw [effect, Statement.step, Having.make_eq computes]
  rfl

theorem apply_having (computes : builder.quoter.Computes quote) (expression : Value)
    (value : Option Value) (additive : Value) :
    builder.apply (.having expression value additive) =
      builder.withGroups ((Having.sources expression (value.map Value.asList)).map
        (Having.ofSource quote builder.options.placeholder additive)) := by
  rw [apply, effect_having computes]
  rfl

/-- Calls for conditions on groups that add one condition each add all of them, in the order of the
calls. -/
theorem run_having {α : Type} (computes : builder.quoter.Computes quote) (additive : Value)
    {expression : α → Value} {value : α → Option Value} {source : α → String × Option Value}
    {items : List α}
    (each : ∀ item ∈ items,
      Having.sources (expression item) ((value item).map Value.asList) = [source item]) :
    builder.run (items.map fun item => .having (expression item) (value item) additive) =
      builder.withGroups ((items.map source).map
        (Having.ofSource quote builder.options.placeholder additive)) := by
  induction items generalizing builder with
  | nil => simp [withGroups, Statement.withGroups]
  | cons item items ih =>
      obtain ⟨first, others⟩ := List.forall_mem_cons.mp each
      -- Conditions on groups leave the quoter alone, so the next call meets it again.
      have kept (conditions : List Having) :
          (builder.withGroups conditions).quoter.Computes quote := computes
      rw [List.map_cons, run_cons, apply_having computes, first, ih (kept _) others]
      simp [withGroups, Statement.withGroups]

theorem placeholder_ne_nil {fields : Fields} {options : Options}
    (accepted : Options.ofFields fields = .ok options) : options.placeholder.toList ≠ [] := by
  have placeholder : ("placeholder", options.placeholder) ∈ options.settings := by
    simp [Options.settings]
  obtain ⟨c, mem, -⟩ := Options.exists_solid_of_mem_settings accepted placeholder
  exact List.ne_nil_of_mem mem

/-- Under options that are accepted every expression has one segmentation by the placeholder, and
the literal of a value is put between its segments, whatever stands in the literal.  An expression
without the placeholder does not depend on the literal, and one without a value stays as it is. -/
theorem having_segments {fields : Fields} {options : Options}
    (accepted : Options.ofFields fields = .ok options) (expression : String) :
    ∃ segments : List String,
      (Text.IsSegmentation options.placeholder.toList (segments.map String.toList)
          expression.toList ∧
        ∀ others : List String, Text.IsSegmentation options.placeholder.toList
          (others.map String.toList) expression.toList → others = segments) ∧
      (¬ options.placeholder.toList <:+: expression.toList →
        ∀ literal : String, literal.intercalate segments = expression) ∧
      ∀ (builder : Builder) (quote : String → String), builder.options = options →
        builder.quoter.Computes quote → ∀ additive : Value,
          (∀ (value first : Value) (rest : List Value), value.asList = first :: rest →
            builder.effect (.having (.text expression) (some value) additive) =
              .accepted (builder.statement.withGroups
                [⟨.ofFlag additive, (quote first.content).intercalate segments⟩])) ∧
          builder.effect (.having (.text expression) none additive) =
            .accepted (builder.statement.withGroups [⟨.ofFlag additive, expression⟩]) := by
  have nonempty := placeholder_ne_nil accepted
  refine ⟨Text.segments expression options.placeholder,
    ⟨Text.isSegmentation_segments nonempty expression, fun others cut => cut.eq_segments nonempty⟩,
    ?_, ?_⟩
  · intro free literal
    rw [Text.segments_of_free nonempty free, String.intercalate_singleton]
  · rintro builder quote rfl computes additive
    have single : (Value.text expression).isSequence = false := rfl
    obtain ⟨plain, valued⟩ := Having.sources_single single
    constructor
    · intro value first rest asList
      rw [effect_having computes, Option.map_some, asList, valued, List.map_singleton,
        Having.ofSource_some, Text.replaceAll_eq_intercalate]
      rfl
    · rw [effect_having computes, Option.map_none, plain, List.map_singleton, Having.ofSource_none]
      rfl

/-- A placeholder that overlaps itself is found from the left, and the one in the literal stays. -/
theorem having_segments_overlapping :
    let options : Options := { Options.default with placeholder := "aa" }
    let builder : Builder := { quoter := .ansi, options }
    Options.ofFields [("placeholder", .text "aa")] = .ok options ∧
      Text.IsSegmentation "aa".toList (["", "a>", ""].map String.toList) "aaa>aa".toList ∧
      builder.effect (.having (.text "aaa>aa") (some (.text "aa")) (.bool true)) =
        .accepted (builder.statement.withGroups [⟨.and, "'aa'a>'aa'"⟩]) := by
  intro options builder
  have accepted : Options.ofFields [("placeholder", .text "aa")] = .ok options := rfl
  have cut : Text.IsSegmentation "aa".toList (["", "a>", ""].map String.toList)
      "aaa>aa".toList := by
    have segments : Text.segments "aaa>aa" "aa" = ["", "a>", ""] := by decide
    exact segments ▸ Text.isSegmentation_segments (by decide) "aaa>aa"
  have literal : (Quoter.enclose Quoter.escapeQuote "aa").intercalate ["", "a>", ""] =
      "'aa'a>'aa'" := by decide
  obtain ⟨segments, ⟨-, only⟩, -, effects⟩ := having_segments accepted "aaa>aa"
  obtain rfl := only ["", "a>", ""] cut
  obtain ⟨valued, -⟩ := effects builder _ rfl (Quoter.computes_ofFunction _ _) (.bool true)
  have effect := valued (.text "aa") (.text "aa") [] rfl
  have content : (Value.text "aa").content = "aa" := rfl
  rw [content, literal] at effect
  exact ⟨accepted, cut, effect⟩

/-- A call that gives several expressions leaves the same builder as one call for each of them.
With several values every call has its own, and expressions without a value and values without an
expression are left out; null is a value like any other. -/
theorem having_batch (computes : builder.quoter.Computes quote) {expressions : Value}
    {items : List Value} (hasItems : expressions.HasItems items)
    (single : ∀ item ∈ items, item.isSequence = false) (additive : Value) :
    (∀ (values : Value) (entries : List Value), values.HasItems entries →
      (∀ entry ∈ entries, entry.isSequence = false) →
      builder.apply (.having expressions (some values) additive) =
        builder.run ((items.zip entries).map fun pair => .having pair.1 (some pair.2) additive) ∧
      (builder.apply (.having expressions (some values) additive)).statement.having =
        builder.statement.having ++ (items.zip entries).map fun pair =>
          ⟨.ofFlag additive, Text.replaceAll pair.1.display builder.options.placeholder
            (quote pair.2.content)⟩) ∧
    builder.apply (.having expressions none additive) =
      builder.run (items.map fun item => .having item none additive) ∧
    (builder.apply (.having expressions none additive)).statement.having =
      builder.statement.having ++ items.map fun item => ⟨.ofFlag additive, item.display⟩ := by
  obtain ⟨plain, paired⟩ := Having.sources_of_hasItems hasItems
  refine ⟨?_, ?_, ?_⟩
  · intro values entries valuesHaveItems singleEntries
    have each : ∀ pair ∈ items.zip entries,
        Having.sources pair.1 ((some pair.2).map Value.asList) =
          [(pair.1.display, some pair.2)] := by
      intro pair mem
      obtain ⟨item, entry⟩ := List.of_mem_zip mem
      rw [Option.map_some, Value.asList_of_not_isSequence (singleEntries pair.2 entry)]
      exact (Having.sources_single (single pair.1 item)).2 pair.2 []
    rw [apply_having computes, run_having computes additive each, Option.map_some,
      valuesHaveItems.asList_eq, paired]
    refine ⟨rfl, ?_⟩
    simp [withGroups, Statement.withGroups, Having.ofSource_some]
  · have each : ∀ item ∈ items,
        Having.sources item (Option.map Value.asList none) = [(item.display, none)] :=
      fun item mem => (Having.sources_single (single item mem)).1
    rw [apply_having computes, run_having computes additive each, Option.map_none, plain]
  · rw [apply_having computes, Option.map_none, plain]
    simp [withGroups, Statement.withGroups, Having.ofSource_none]

/-- The third expression has no value, and null stands as the empty literal. -/
theorem having_batch_truncated :
    let builder : Builder := { quoter := .ansi, options := .default }
    let batch : Call := .having (.list [.text "MAX(a) > ?", .text "b = ? OR c = ?", .text "d"])
      (some (.tuple [.null, .int 5])) (.bool false)
    builder.apply batch = builder.run
        [.having (.text "MAX(a) > ?") (some .null) (.bool false),
          .having (.text "b = ? OR c = ?") (some (.int 5)) (.bool false)] ∧
      (builder.apply batch).statement.having =
        [⟨.or, "MAX(a) > ''"⟩, ⟨.or, "b = '5' OR c = '5'"⟩] := by
  intro builder batch
  have computes : builder.quoter.Computes (Quoter.enclose Quoter.escapeQuote) :=
    Quoter.computes_ofFunction _ _
  obtain ⟨paired, -⟩ := having_batch computes
    (.inl rfl : (Value.list [.text "MAX(a) > ?", .text "b = ? OR c = ?", .text "d"]).HasItems _)
    (by decide) (.bool false)
  obtain ⟨same, added⟩ := paired (.tuple [.null, .int 5]) [.null, .int 5] (.inr rfl) (by decide)
  exact ⟨same, added.trans (by decide)⟩

end Builder
end SqlDraft
