import SqlDraft.Proofs.Accumulation
import SqlDraft.Proofs.Operand

/-!
# Independence of the quoter

A run of calls has one template, in which every hole is labelled with the text of a value that one
of the calls has given.  Whatever function quotes texts, the calls have the same outcomes, and the
text of the statement is the template with the quoted labels in its holes.  Nothing looks at what
the quoter has answered.
-/

namespace SqlDraft

namespace Call

/-- The values of a call that are quoted. -/
def quotedValues : Call → List Value
  | .filter _ value _ _ => if value.isQuoted then [value] else []
  | .values assigned => ((Entries.ofValue assigned).toOption.getD []).map Prod.snd
  | .having _ (some value) _ => value.asList
  | _ => []

/-- The templates of the conditions on rows that a call adds. -/
def rows (options : Options) : Call → List Template.Condition
  | .filter column value operator additive =>
      ((Predicate.checkFrame column (Comparison.operatorFor value
        (Options.orDefault options.defaultOperator operator))).toOption.toList).map fun frame =>
          ⟨.ofFlag additive, [.fixed (frame.1 ++ " " ++ frame.2 ++ " "), value.operand]⟩
  | _ => []

/-- The templates of the conditions on groups that a call adds. -/
def groups (options : Options) : Call → List Template.Condition
  | .having expression value additive =>
      (Having.sources expression (value.map Value.asList)).map fun source =>
        ⟨.ofFlag additive, Having.template options.placeholder source⟩
  | _ => []

variable {quoter : Quoter} {quote : String → String}

theorem predicates_eq (computes : quoter.Computes quote) (options : Options) (call : Call) :
    (call.predicates quoter options).map Predicate.condition =
      (call.rows options).map (Template.Condition.fill quote) := by
  cases call with
  | filter column value operator additive =>
      simp only [predicates, rows, Predicate.make_eq computes]
      cases Predicate.checkFrame column (Comparison.operatorFor value
        (Options.orDefault options.defaultOperator operator)) with
      | error failure => rfl
      | ok frame =>
          simp [Except.map, Except.toOption, Template.Condition.fill, Predicate.condition,
            Predicate.render, Piece.fill]
  | _ => rfl

theorem groupConditions_eq (computes : quoter.Computes quote) (options : Options) (call : Call) :
    (call.groupConditions quoter options).map Having.condition =
      (call.groups options).map (Template.Condition.fill quote) := by
  cases call with
  | having expression value additive =>
      simp [groupConditions, groups, Having.make_eq computes, Except.toOption, Having.condition,
        Having.render, Template.Condition.fill, Function.comp_def]
  | _ => rfl

theorem failure_step_of_computes {other : Quoter} {quoteOther : String → String}
    (computes : quoter.Computes quote) (computesOther : other.Computes quoteOther)
    (options : Options) {statement statementOther : Statement} (call : Call)
    (agree : call.category ≠ .filter → call.category ≠ .having →
      statement.only call.category = statementOther.only call.category) :
    (statement.step quoter options call).failure =
      (statementOther.step other options call).failure := by
  by_cases filter : call.category = .filter
  · cases call with
    | filter column value operator additive =>
        simp only [Statement.step, Predicate.make_eq computes, Predicate.make_eq computesOther,
          Effect.change_map]
        exact Effect.failure_change _ _ _ _ _
    | _ => cases filter
  by_cases having : call.category = .having
  · cases call with
    | having expression value additive =>
        simp only [Statement.step, Having.make_eq computes, Having.make_eq computesOther]
        rfl
    | _ => cases having
  · rw [Statement.step_eq_of_quoter quoter options statement other filter having]
    exact Statement.failure_step_of_only _ _ (agree filter having)

theorem labels_rows {options : Options} {call : Call} {condition : Template.Condition}
    (made : condition ∈ call.rows options) :
    condition.text.labels ⊆ call.quotedValues.map Value.content := by
  cases call with
  | filter column value operator additive =>
      obtain ⟨frame, -, rfl⟩ := List.mem_map.mp made
      have fixed (text : String) : (Piece.fixed text).label? = none := rfl
      cases quoted : value.isQuoted <;>
        simp [fixed, Value.label?_operand, quotedValues, quoted]
  | _ => cases made

theorem labels_groups {options : Options} {call : Call} {condition : Template.Condition}
    (made : condition ∈ call.groups options) :
    condition.text.labels ⊆ call.quotedValues.map Value.content := by
  cases call with
  | having expression value additive =>
      obtain ⟨source, given, rfl⟩ := List.mem_map.mp made
      cases value with
      | none =>
          obtain ⟨item, -, rfl⟩ := List.mem_map.mp given
          simp [Having.template]
      | some value =>
          obtain ⟨⟨item, paired⟩, zipped, rfl⟩ := List.mem_map.mp given
          have member : paired ∈ value.asList := (List.of_mem_zip zipped).2
          apply Template.labels_separated_subset
          · simpa [Piece.label?, quotedValues] using ⟨paired, member, rfl⟩
          · intro piece mem
            obtain ⟨segment, -, rfl⟩ := List.mem_map.mp mem
            simp
  | _ => cases made

end Call

/-- The statement without its conditions. -/
def Statement.bare (statement : Statement) : Statement :=
  { statement with predicates := [], having := [] }

theorem Statement.bare_eq_of_only {left right : Statement}
    (agree : ∀ category, category ≠ .filter → category ≠ .having →
      left.only category = right.only category) : left.bare = right.bare := by
  apply eq_of_only
  intro category
  by_cases filter : category = .filter
  · rw [filter]
    rfl
  by_cases having : category = .having
  · rw [having]
    rfl
  · have kept := agree category filter having
    cases category <;> simp_all [bare, only]

namespace Builder

variable {quoter : Quoter} {quote : String → String}

/-- The template of the text after a run, taken from the statement without its conditions. -/
def template (options : Options) (calls : List Call) (bare : Statement) : Except Failure Template :=
  (Template.clauses bare (calls.flatMap (Call.rows options))
    (calls.flatMap (Call.groups options))).map Template.layOut

/-- The text after a run is its filled template, without the blanks at the end. -/
theorem assemble_run_eq (computes : quoter.Computes quote) (options : Options)
    (calls : List Call) :
    (({ quoter, options } : Builder).run calls).assemble =
      (template options calls (({ quoter, options } : Builder).run calls).statement.bare).map
        fun template => Text.trimEnd (template.fill quote) := by
  have rows : (({ quoter, options } : Builder).run calls).statement.predicates.map
        Predicate.condition =
      (calls.flatMap (Call.rows options)).map (Template.Condition.fill quote) := by
    rw [predicates_run]
    simp [Statement.empty, List.map_flatMap, Call.predicates_eq computes]
  have groups : (({ quoter, options } : Builder).run calls).statement.having.map
        Having.condition =
      (calls.flatMap (Call.groups options)).map (Template.Condition.fill quote) := by
    rw [having_run]
    simp [Statement.empty, List.map_flatMap, Call.groupConditions_eq computes]
  rw [assemble, quoter_run]
  exact Template.assemble_eq computes rows groups

/-- The labels of the template of a run are texts of values that its calls have given. -/
theorem labels_template (builder : Builder) (fresh : builder.statement = .empty)
    (calls : List Call) {filled : Template}
    (rendered : template builder.options calls (builder.run calls).statement.bare = .ok filled)
    {label : String} (mem : label ∈ filled.labels) :
    ∃ call ∈ calls, ∃ value ∈ call.quotedValues, value.content = label := by
  suffices filled.labels ⊆ calls.flatMap fun call => call.quotedValues.map Value.content by
    simpa using this mem
  unfold template at rendered
  cases items : Template.clauses (builder.run calls).statement.bare
      (calls.flatMap (Call.rows builder.options))
      (calls.flatMap (Call.groups builder.options)) with
  | error failure =>
      rw [items] at rendered
      cases rendered
  | ok clauses =>
      rw [items] at rendered
      obtain rfl := Except.ok.inj rendered
      apply Template.labels_layOut_subset
      apply Template.labels_clauses_subset _ _ _ items
      · intro entry entryMem
        rcases assignments_run_cases builder calls with kept | ⟨values, made, read⟩
        · have assigned : entry ∈ (builder.run calls).statement.assignments := entryMem
          rw [kept, fresh] at assigned
          cases assigned
        · refine List.mem_flatMap.mpr ⟨_, made, List.mem_map.mpr ⟨entry.2, ?_, rfl⟩⟩
          rw [Call.quotedValues, read]
          exact List.mem_map.mpr ⟨entry, entryMem, rfl⟩
      · intro condition condMem label labelMem
        obtain ⟨call, made, added⟩ := List.mem_flatMap.mp condMem
        exact List.mem_flatMap.mpr ⟨call, made, Call.labels_rows added labelMem⟩
      · intro condition condMem label labelMem
        obtain ⟨call, made, added⟩ := List.mem_flatMap.mp condMem
        exact List.mem_flatMap.mpr ⟨call, made, Call.labels_groups added labelMem⟩

end Builder

/-- A run has one template for all functions that quote texts.  Its labels are texts of values that
the calls have given; whether a call is refused and what the text of the statement is follow from
the outcomes and the template.  A value that is not quoted in a condition on rows reaches no
quoter. -/
theorem exists_template (options : Options) (calls : List Call) :
    (∃ (outcome : Fin calls.length → Option Failure) (template : Except Failure Template),
      (∀ filled, template = .ok filled → ∀ label ∈ filled.labels,
        ∃ call ∈ calls, ∃ value ∈ call.quotedValues, value.content = label) ∧
      ∀ (quoter : Quoter) (quote : String → String), quoter.Computes quote →
        (∀ position, ({ quoter, options } : Builder).outcome calls position = outcome position) ∧
        (({ quoter, options } : Builder).run calls).assemble =
          template.map fun filled => Text.trimEnd (filled.fill quote)) ∧
      ∀ (quoter other : Quoter) (statement : Statement) (column value operator additive : Value),
        value.isQuoted = false →
        statement.step quoter options (.filter column value operator additive) =
          statement.step other options (.filter column value operator additive) := by
  let reference : Builder := { quoter := .ofFunction "reference" id, options }
  have computesReference : reference.quoter.Computes id := Quoter.computes_ofFunction _ _
  refine ⟨⟨reference.outcome calls,
    Builder.template options calls (reference.run calls).statement.bare, ?_, ?_⟩, ?_⟩
  · intro filled rendered label mem
    exact Builder.labels_template reference rfl calls rendered mem
  · intro quoter quote computes
    let builder : Builder := { quoter, options }
    have agree (calls : List Call) (category : Category) (noFilter : category ≠ .filter)
        (noHaving : category ≠ .having) :
        (builder.run calls).statement.only category =
          (reference.run calls).statement.only category :=
      Builder.only_run_of_quoter noFilter noHaving builder reference rfl rfl calls
    constructor
    · intro position
      unfold Builder.outcome Builder.effect
      simp only [Builder.quoter_run, Builder.options_run]
      exact Call.failure_step_of_computes computes computesReference options _ (agree _ _)
    · rw [Builder.assemble_run_eq computes,
        Statement.bare_eq_of_only (agree calls)]
  · intro quoter other statement column value operator additive plain
    simp only [Statement.step, Predicate.make_eq_of_not_isQuoted quoter other _ _ _ plain]

/-- What a function answers is copied even if it holds the placeholder or ends in blanks. -/
theorem exists_template_marks :
    ∃ template : Except Failure Template,
      (template.map fun filled => Text.trimEnd (filled.fill (Quoter.enclose Quoter.escapeQuote))) =
          .ok "SELECT a FROM t WHERE b = 'it''s ?' HAVING COUNT(a) > 'x'" ∧
        (template.map fun filled =>
            Text.trimEnd (filled.fill fun content => "?" ++ content ++ " ")) =
          .ok "SELECT a FROM t WHERE b = ?it's ?  HAVING COUNT(a) > ?x" := by
  obtain ⟨⟨outcome, template, -, fills⟩, -⟩ := exists_template .default
    [.select (.text "a"), .table (.text "t"),
      .filter (.text "b") (.text "it's ?") .null (.bool true),
      .having (.text "COUNT(a) > ?") (some (.text "x")) (.bool true)]
  refine ⟨template, ?_, ?_⟩
  · rw [← (fills .ansi _ (Quoter.computes_ofFunction _ _)).2]
    rfl
  · rw [← (fills (.ofFunction "marks" _) _ (Quoter.computes_ofFunction _ _)).2]
    rfl

end SqlDraft
