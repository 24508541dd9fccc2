import SqlDraft.Proofs.PlainLayout

/-!
# Texts of plain statements are unambiguous

The clauses of two plain statements with the same text peel off one after the other, from the kind
to the offset.  Two runs that end in plain statements therefore have the same text if and only if
their statements have the same canonical form.
-/

namespace SqlDraft

theorem Predicate.eq_of_map_condition {engine : Engine} {left right : List Predicate}
    (leftPlain : ∀ predicate ∈ left, predicate.IsPlain engine)
    (rightPlain : ∀ predicate ∈ right, predicate.IsPlain engine)
    (same : left.map condition = right.map condition) : left = right := by
  induction left generalizing right with
  | nil => exact (List.map_eq_nil_iff.mp same.symm).symm
  | cons first left ih =>
      cases right with
      | nil => cases same
      | cons second right =>
          obtain ⟨firstPlain, leftRest⟩ := List.forall_mem_cons.mp leftPlain
          obtain ⟨secondPlain, rightRest⟩ := List.forall_mem_cons.mp rightPlain
          obtain ⟨head, tail⟩ := List.cons.inj same
          rw [eq_of_condition firstPlain secondPlain head, ih leftRest rightRest tail]

attribute [ext] Statement

namespace Statement

/-- The characters of a statement from its ordering on. -/
def fromOrdering (statement : Statement) : List Char :=
  spaced (Clause.orderBy statement.ordering) ++ spaced (Clause.pagination statement)

/-- The characters of a statement from its conditions on groups on. -/
def fromHaving (statement : Statement) : List Char :=
  spaced (Clause.having statement) ++ statement.fromOrdering

/-- The characters of a statement from its grouping on. -/
def fromGrouping (statement : Statement) : List Char :=
  spaced (Clause.groupBy statement.grouping) ++ statement.fromHaving

/-- The characters of a statement from its conditions on rows on. -/
def fromFilter (statement : Statement) : List Char :=
  spaced (Clause.filter statement) ++ statement.fromGrouping

/-- The characters of a statement from its joins on. -/
def fromJoins (statement : Statement) : List Char :=
  joinCharacters statement ++ statement.fromFilter

/-- The characters of a statement from its assigned columns on. -/
def fromAssignments (quote : String → String) (statement : Statement) : List Char :=
  spaced (statement.assignmentText quote) ++ statement.fromJoins

/-- The characters of a statement from its main table on. -/
def fromTable (quote : String → String) (statement : Statement) : List Char :=
  spaced statement.tableText ++ statement.fromAssignments quote

/-- The characters of a statement from its selected fields on. -/
def fromProjection (quote : String → String) (statement : Statement) : List Char :=
  spaced statement.projectionText ++ statement.fromTable quote

theorem flatMap_clauseTexts (quote : String → String) (statement : Statement) :
    (statement.clauseTexts quote).flatMap spaced =
      spaced (Clause.kind statement) ++ statement.fromProjection quote := by
  simp [clauseTexts, fromProjection, fromTable, fromAssignments, fromJoins, fromFilter,
    fromGrouping, fromHaving, fromOrdering, joinCharacters]

theorem leads_fromOrdering (statement : Statement) :
    Leads ["ORDER", "LIMIT"] statement.fromOrdering :=
  (Clause.opens_listing rfl _).leads (Clause.leads_pagination statement)

theorem leads_fromHaving (statement : Statement) :
    Leads ["HAVING", "ORDER", "LIMIT"] statement.fromHaving :=
  (Condition.opens_condition "HAVING" _).leads statement.leads_fromOrdering

theorem leads_fromGrouping (statement : Statement) :
    Leads ["GROUP", "HAVING", "ORDER", "LIMIT"] statement.fromGrouping :=
  (Clause.opens_listing rfl _).leads statement.leads_fromHaving

theorem leads_fromFilter (statement : Statement) :
    Leads ["WHERE", "GROUP", "HAVING", "ORDER", "LIMIT"] statement.fromFilter :=
  (Condition.opens_condition "WHERE" _).leads statement.leads_fromGrouping

theorem leads_fromTable (quote : String → String) {statement : Statement}
    (select : statement.kind = some .select) : Leads ["FROM"] (statement.fromTable quote) := by
  have keyword : "FROM ".toList = "FROM".toList ++ [' '] := rfl
  refine .inr ⟨"FROM", List.mem_cons_self, ?_, ?_⟩
  · exact (Join.tableText statement.table).toList ++ ' ' :: statement.fromAssignments quote
  · simp [fromTable, tableText, select, Kind.readsFrom, keyword]

variable {engine : Engine} {left right : Statement}

theorem peel_kind (leftPlain : left.IsPlain engine) (rightPlain : right.IsPlain engine)
    {leftRest rightRest : List Char}
    (same : spaced (Clause.kind left) ++ leftRest = spaced (Clause.kind right) ++ rightRest) :
    left.kind = right.kind ∧ leftRest = rightRest := by
  obtain ⟨leftKind, leftSet⟩ := Option.ne_none_iff_exists'.mp leftPlain.kind
  obtain ⟨rightKind, rightSet⟩ := Option.ne_none_iff_exists'.mp rightPlain.kind
  have first (kind : Kind) :
      ∃ tail, kind.keyword.toList = kind.keyword.toList.headD ' ' :: tail := by
    cases kind <;> exact ⟨_, rfl⟩
  have apart (kind other : Kind)
      (heads : kind.keyword.toList.headD ' ' = other.keyword.toList.headD ' ') : kind = other := by
    revert heads
    cases kind <;> cases other <;> decide
  simp only [Clause.kind, leftSet, rightSet, Option.map_some, spaced_some] at same
  obtain ⟨leftTail, leftSplit⟩ := first leftKind
  obtain ⟨rightTail, rightSplit⟩ := first rightKind
  have heads := same
  rw [leftSplit, rightSplit] at heads
  obtain rfl := apart leftKind rightKind (List.cons.inj heads).1
  exact ⟨leftSet.trans rightSet.symm, List.append_cancel_left same⟩

theorem peel_table (leftPlain : left.IsPlain engine) (rightPlain : right.IsPlain engine)
    (kind : left.kind = right.kind) {leftRest rightRest : List Char}
    (same : spaced left.tableText ++ leftRest = spaced right.tableText ++ rightRest) :
    left.table = right.table ∧ leftRest = rightRest := by
  obtain ⟨which, rightSet⟩ := Option.ne_none_iff_exists'.mp rightPlain.kind
  obtain ⟨leftName, leftNamed, leftIsName⟩ := leftPlain.table
  obtain ⟨rightName, rightNamed, rightIsName⟩ := rightPlain.table
  simp only [tableText, kind, rightSet, leftNamed, rightNamed, tableText_text leftIsName,
    tableText_text rightIsName, Option.map_some, spaced_some, String.toList_append,
    List.append_assoc, List.singleton_append] at same
  obtain ⟨name, rests⟩ := peels_name leftIsName rightIsName ((stops_cons ..).mpr rfl)
    ((stops_cons ..).mpr rfl) (List.append_cancel_left same)
  exact ⟨by rw [leftNamed, rightNamed, name], (List.cons.inj rests).2⟩

/-- The conditions on rows can be told from the text, but for the combinator of the first one. -/
theorem peel_filter
    (leftPredicates : ∀ predicate ∈ left.predicates, predicate.IsPlain engine)
    (rightPredicates : ∀ predicate ∈ right.predicates, predicate.IsPlain engine)
    (same : left.fromFilter = right.fromFilter) :
    left.canonical.predicates = right.canonical.predicates ∧
      left.fromGrouping = right.fromGrouping := by
  have valid {statement : Statement}
      (plain : ∀ predicate ∈ statement.predicates, predicate.IsPlain engine) :
      ∀ condition ∈ statement.predicates.map Predicate.condition,
        ∃ predicate : Predicate, predicate.IsPlain engine ∧ predicate.render = condition.text := by
    rw [List.forall_mem_map]
    exact fun predicate mem => ⟨predicate, plain predicate mem, rfl⟩
  obtain ⟨shown, rests⟩ := Condition.peel_condition Predicate.peels_render (by decide) (by decide)
    (by decide) (by decide) (valid leftPredicates) (valid rightPredicates) left.leads_fromGrouping
    right.leads_fromGrouping same
  refine ⟨?_, rests⟩
  have conditions (predicates : List Predicate) :
      Condition.shown (predicates.map Predicate.condition) =
        (predicates.modifyHead fun first => { first with combinator := .and }).map
          Predicate.condition := by
    cases predicates <;> rfl
  have plain {predicates : List Predicate}
      (each : ∀ predicate ∈ predicates, predicate.IsPlain engine) :
      ∀ predicate ∈ predicates.modifyHead fun first => { first with combinator := .and },
        predicate.IsPlain engine := by
    cases predicates with
    | nil => exact nofun
    | cons first rest =>
        obtain ⟨firstPlain, restPlain⟩ := List.forall_mem_cons.mp each
        exact List.forall_mem_cons.mpr ⟨⟨firstPlain.column, firstPlain.comparison⟩, restPlain⟩
  rw [conditions, conditions] at shown
  exact Predicate.eq_of_map_condition (plain leftPredicates) (plain rightPredicates) shown

theorem peel_having (leftPlain : left.IsPlain engine) (rightPlain : right.IsPlain engine)
    (same : left.fromHaving = right.fromHaving) :
    left.canonical.having = right.canonical.having ∧ left.fromOrdering = right.fromOrdering := by
  have valid {statement : Statement} (plain : statement.IsPlain engine) :
      ∀ condition ∈ statement.having.map Having.condition, engine.IsExpression condition.text := by
    rw [List.forall_mem_map]
    exact plain.having
  obtain ⟨shown, rests⟩ := Condition.peel_condition engine.peels_expression (by decide) (by decide)
    (by decide) (by decide) (valid leftPlain) (valid rightPlain) left.leads_fromOrdering
    right.leads_fromOrdering same
  refine ⟨?_, rests⟩
  have conditions (having : List Having) :
      Condition.shown (having.map Having.condition) =
        (having.modifyHead fun first => { first with combinator := .and }).map
          Having.condition := by
    cases having <;> rfl
  have injective (first second : Having) (same : first.condition = second.condition) :
      first = second := by
    obtain ⟨combinator, expression⟩ := Condition.mk.inj same
    exact congrArg₂ Having.mk combinator expression
  rw [conditions, conditions] at shown
  exact (List.map_inj_right injective).mp shown

/-- Plain statements with the same characters have the same canonical form. -/
theorem canonical_eq_of_flatMap (leftCoherent : left.Coherent) (rightCoherent : right.Coherent)
    (leftPlain : left.IsPlain engine) (rightPlain : right.IsPlain engine)
    (leftPredicates : ∀ predicate ∈ left.predicates, predicate.IsPlain engine)
    (rightPredicates : ∀ predicate ∈ right.predicates, predicate.IsPlain engine)
    (same : (left.clauseTexts engine.quote).flatMap spaced =
      (right.clauseTexts engine.quote).flatMap spaced) : left.canonical = right.canonical := by
  rw [flatMap_clauseTexts, flatMap_clauseTexts] at same
  -- Clause by clause the texts tell their part of the statement and leave equal rests.
  obtain ⟨kind, same⟩ := peel_kind leftPlain rightPlain same
  obtain ⟨projection, same⟩ := peel_projectionText leftCoherent rightCoherent leftPlain rightPlain
    (leads_fromTable engine.quote) (leads_fromTable engine.quote) kind same
  obtain ⟨table, same⟩ := peel_table leftPlain rightPlain kind same
  obtain ⟨texts, same⟩ := peel_assignmentText leftCoherent rightCoherent leftPlain rightPlain kind
    (by decide) (by decide) (startsClause_joins leftPlain left.leads_fromFilter)
    (startsClause_joins rightPlain right.leads_fromFilter) same
  have assignments : left.canonical.assignments = right.canonical.assignments := by
    rw [canonical_assignments leftPlain, canonical_assignments rightPlain, texts]
  obtain ⟨joins, same⟩ := peel_joins leftPlain rightPlain (by decide) left.leads_fromFilter
    right.leads_fromFilter same
  obtain ⟨predicates, same⟩ := peel_filter leftPredicates rightPredicates same
  obtain ⟨grouping, same⟩ := Clause.peel_groupBy (by decide) (by decide) leftPlain.grouping
    rightPlain.grouping left.leads_fromHaving right.leads_fromHaving same
  obtain ⟨having, same⟩ := peel_having leftPlain rightPlain same
  obtain ⟨ordering, same⟩ := Clause.peel_orderBy (by decide) (by decide) leftPlain.ordering
    rightPlain.ordering (Clause.leads_pagination left) (Clause.leads_pagination right) same
  obtain ⟨limit, offset⟩ := Clause.peel_pagination leftPlain.limit rightPlain.limit leftPlain.offset
    rightPlain.offset same
  exact Statement.ext kind projection table joins predicates assignments grouping having ordering
    limit offset

/-- Plain statements have the same text if and only if they have the same canonical form. -/
theorem layOut_eq_iff (leftCoherent : left.Coherent) (rightCoherent : right.Coherent)
    (leftPlain : left.IsPlain engine) (rightPlain : right.IsPlain engine)
    (leftPredicates : ∀ predicate ∈ left.predicates, predicate.IsPlain engine)
    (rightPredicates : ∀ predicate ∈ right.predicates, predicate.IsPlain engine) :
    layOut (left.clauseTexts engine.quote) = layOut (right.clauseTexts engine.quote) ↔
      left.canonical = right.canonical := by
  have characters {statement : Statement} (coherent : statement.Coherent)
      (plain : statement.IsPlain engine)
      (predicates : ∀ predicate ∈ statement.predicates, predicate.IsPlain engine) :
      (statement.clauseTexts engine.quote).flatMap spaced =
        (layOut (statement.clauseTexts engine.quote)).toList ++ [' '] := by
    obtain ⟨kind, given⟩ := Option.ne_none_iff_exists'.mp plain.kind
    apply flatMap_spaced (fun text => endsSolid_clauseTexts coherent plain predicates)
    exact List.mem_append_left _ (List.mem_append_left _
      (List.mem_cons.mpr (.inl (congrArg (Option.map Kind.keyword) given).symm)))
  constructor
  · intro same
    apply canonical_eq_of_flatMap leftCoherent rightCoherent leftPlain rightPlain leftPredicates
      rightPredicates
    rw [characters leftCoherent leftPlain leftPredicates,
      characters rightCoherent rightPlain rightPredicates, same]
  · intro same
    rw [← clauseTexts_canonical engine.quote leftCoherent leftPlain,
      ← clauseTexts_canonical engine.quote rightCoherent rightPlain, same]

end Statement

/-- The operator of a condition on rows, given or the default one, is made of signs. -/
def Call.HasSymbolicOperator (options : Options) : Call → Prop
  | .filter _ _ operator _ =>
      ∃ content, Options.orDefault options.defaultOperator operator = .text content ∧
        IsSymbolic content
  | _ => True

theorem Predicate.snd_of_checkFrame {column : Value} {operator : String} {frame : String × String}
    (checked : checkFrame column (.text operator) = .ok frame) : frame.2 = operator :=
  (Except.ok.inj (readText_of_checkFrame checked).2).symm

namespace Call

variable {engine : Engine} {options : Options} {call : Call}

/-- Conditions on rows with operators made of signs are plain if their columns are. -/
theorem isPlain_of_mem_predicates (symbolic : call.HasSymbolicOperator options)
    {predicate : Predicate} (added : predicate ∈ call.predicates engine.quoter options)
    (column : IsName predicate.column) : predicate.IsPlain engine := by
  obtain ⟨name, value, operator, additive, rfl, made⟩ := exists_make_of_mem_predicates added
  obtain ⟨content, given, isSymbolic⟩ := symbolic
  rw [given] at made
  obtain ⟨frame, checked, rfl⟩ := Predicate.exists_frame_of_make engine.computes_quoter made
  refine ⟨column, ?_⟩
  dsimp only
  by_cases null : value = .null
  · subst null
    refine .inr ⟨?_, rfl⟩
    rw [Predicate.snd_of_checkFrame checked]
    split <;> simp
  · rw [Comparison.operatorFor_of_ne null] at checked
    rw [Predicate.snd_of_checkFrame checked, Value.fill_operand]
    refine .inl ⟨isSymbolic, ?_⟩
    cases quoted : value.isQuoted with
    | true => exact .inr ⟨value.content, rfl⟩
    | false => exact .inl (Value.isToken_plainText quoted)

theorem predicates_of_refused {quoter : Quoter} (statement : Statement) (call : Call) :
    call.predicates quoter options =
      if (statement.step quoter options call).failure.isNone then call.predicates quoter options
      else [] := by
  cases call with
  | filter column value operator additive =>
      rw [Statement.isNone_failure_step_filter, predicates]
      generalize Predicate.make _ _ _ _ _ = made
      cases made <;> rfl
  | _ => simp [predicates]

end Call

/-- A run that ends in a plain statement; the operators of its accepted conditions on rows are made
of signs. -/
structure Engine.IsPlainRun (engine : Engine) (options : Options) (calls : List Call) : Prop where
  /-- The statement at the end of the run. -/
  statement : (({ quoter := engine.quoter, options } : Builder).run calls).statement.IsPlain engine
  /-- The operators of the conditions on rows. -/
  operators : ∀ call ∈ ({ quoter := engine.quoter, options } : Builder).accepted calls,
    call.HasSymbolicOperator options

namespace Engine.IsPlainRun

variable {engine : Engine} {options : Options} {calls : List Call}

theorem predicates (plain : engine.IsPlainRun options calls) :
    ∀ predicate ∈ (({ quoter := engine.quoter, options } : Builder).run calls).statement.predicates,
      predicate.IsPlain engine := by
  let builder : Builder := { quoter := engine.quoter, options }
  have accepted : (builder.run calls).statement.predicates =
      (builder.accepted calls).flatMap (Call.predicates engine.quoter options) :=
    (builder.predicates_run calls).trans (builder.flatMap_accepted Call.predicates_of_refused calls)
  intro predicate mem
  obtain ⟨call, callMem, made⟩ := List.mem_flatMap.mp (accepted ▸ mem)
  exact Call.isPlain_of_mem_predicates (plain.operators call callMem) made
    (plain.statement.predicates predicate mem)

end Engine.IsPlainRun

/-- Texts are unambiguous.  Runs that end in plain statements have texts, and the texts are the same
if and only if the statements are, but for what does not show: the combinator of a first condition,
the form of the selected fields and of the assigned values, the table that a join leaves to the main
table, and an offset without a limit. -/
theorem assemble_eq_iff_canonical (engine : Engine) {leftOptions rightOptions : Options}
    {leftCalls rightCalls : List Call} (left : engine.IsPlainRun leftOptions leftCalls)
    (right : engine.IsPlainRun rightOptions rightCalls) :
    ∃ leftText rightText,
      (({ quoter := engine.quoter, options := leftOptions } : Builder).run leftCalls).assemble =
        .ok leftText ∧
      (({ quoter := engine.quoter, options := rightOptions } : Builder).run rightCalls).assemble =
        .ok rightText ∧
      (leftText = rightText ↔
        (({ quoter := engine.quoter, options := leftOptions } : Builder).run
          leftCalls).statement.canonical =
        (({ quoter := engine.quoter, options := rightOptions } : Builder).run
          rightCalls).statement.canonical) := by
  have coherent (options : Options) (calls : List Call) :
      (({ quoter := engine.quoter, options } : Builder).run calls).statement.Coherent :=
    Builder.coherent_run Statement.coherent_empty calls
  refine ⟨_, _, ?_, ?_, Statement.layOut_eq_iff (coherent _ _) (coherent _ _) left.statement
    right.statement left.predicates right.predicates⟩
  · rw [Builder.assemble, Builder.quoter_run]
    exact Statement.assemble_of_isPlain (coherent _ _) left.statement
  · rw [Builder.assemble, Builder.quoter_run]
    exact Statement.assemble_of_isPlain (coherent _ _) right.statement

/-- Calls that give one condition on rows; its text looks like two conditions. -/
def forgedCalls : List Call :=
  [.select (.list [.text " id ", .text "*"]), .table (.text "a"),
    .join (.text "b") (.list [.text "x", .text "y"]) .null .null,
    .filter (.text "c") (.text "u' AND d = 'v") .null (.bool false),
    .having (.text "MAX(f) > ?") (some (.text "ORDER BY g")) (.bool true),
    .orderBy (.text "g") (.text "desc"), .limit (.int 3)]

/-- Calls that give the two conditions. -/
def genuineCalls : List Call :=
  [.select (.text "*"), .table (.text "a"),
    .filter (.text "c") (.text "u") .null (.bool true),
    .filter (.text "d") (.text "v") .null (.bool true)]

theorem isPlainRun_forgedCalls : Engine.standard.IsPlainRun .default forgedCalls where
  statement :=
    { kind := nofun
      table := ⟨"a", rfl, by decide⟩
      fields := .inr (List.forall_mem_cons.mpr ⟨⟨" id ", rfl, by decide +kernel⟩,
        List.forall_mem_singleton.mpr ⟨"*", rfl, by decide +kernel⟩⟩)
      columns := nofun
      joins := by decide +kernel
      predicates := by decide +kernel
      grouping := by decide +kernel
      having := by decide +kernel
      ordering := by decide +kernel
      limit := .inr ⟨3, rfl⟩
      offset := .inl rfl }
  operators := by
    change ∀ call ∈ forgedCalls, call.HasSymbolicOperator .default
    simp only [forgedCalls, List.forall_mem_cons]
    exact ⟨trivial, trivial, trivial, ⟨"=", rfl, by decide⟩, trivial, trivial, trivial, nofun⟩

theorem isPlainRun_genuineCalls : Engine.standard.IsPlainRun .default genuineCalls where
  statement :=
    { kind := nofun
      table := ⟨"a", rfl, by decide⟩
      fields := .inr (List.forall_mem_singleton.mpr ⟨"*", rfl, by decide +kernel⟩)
      columns := nofun
      joins := by decide +kernel
      predicates := by decide +kernel
      grouping := by decide +kernel
      having := by decide +kernel
      ordering := by decide +kernel
      limit := .inl rfl
      offset := .inl rfl }
  operators := by
    change ∀ call ∈ genuineCalls, call.HasSymbolicOperator .default
    simp only [genuineCalls, List.forall_mem_cons]
    exact ⟨trivial, trivial, ⟨"=", rfl, by decide⟩, ⟨"=", rfl, by decide⟩, nofun⟩

/-- Quoting keeps the value of one condition from being taken for another condition. -/
theorem forged_text_ne_genuine_text :
    ∃ forged genuine,
      (({ quoter := Engine.standard.quoter, options := .default } : Builder).run
        forgedCalls).assemble = .ok forged ∧
      (({ quoter := Engine.standard.quoter, options := .default } : Builder).run
        genuineCalls).assemble = .ok genuine ∧
      forged ≠ genuine := by
  obtain ⟨forged, genuine, forgedText, genuineText, same⟩ :=
    assemble_eq_iff_canonical .standard isPlainRun_forgedCalls isPlainRun_genuineCalls
  refine ⟨forged, genuine, forgedText, genuineText, fun equal => ?_⟩
  have conditions := congrArg (fun statement => statement.predicates.length) (same.mp equal)
  exact absurd conditions (by decide +kernel)

end SqlDraft
