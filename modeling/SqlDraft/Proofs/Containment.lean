import SqlDraft.Proofs.LiteralClause
import SqlDraft.Proofs.Parametricity

/-!
# Values stay in their literals

Whatever values the calls of a run give, the engine reads the text of the statement as the author of
the calls has meant it: every literal ends, and the literals are the texts of the quoted values and
the literals that the author has written into conditions on groups, in the order of the text.
-/

namespace SqlDraft

namespace Call

/-- The text that a condition on rows quotes, if it quotes one. -/
def operands : Call → List String
  | .filter _ value _ _ => if value.isQuoted then [value.content] else []
  | _ => []

/-- The expressions that a call adds to the conditions on groups, with the values for their
placeholders. -/
def sources : Call → List (String × Option Value)
  | .having expression value _ => Having.sources expression (value.map Value.asList)
  | _ => []

end Call

namespace Engine

/-- The segments before and behind a replaced placeholder. -/
structure IsCut (segments before after : List String) : Prop where
  /-- Something, if only an empty segment, stands before the placeholder. -/
  nonemptyBefore : before ≠ []
  /-- Something, if only an empty segment, stands behind it. -/
  nonemptyAfter : after ≠ []
  /-- Together these are all segments. -/
  split : segments = before ++ after

theorem IsCut.first (segment : String) {segments : List String} (nonempty : segments ≠ []) :
    IsCut (segment :: segments) [segment] segments :=
  ⟨List.cons_ne_nil _ _, nonempty, rfl⟩

theorem IsCut.cons (segment : String) {segments before after : List String}
    (cut : IsCut segments before after) : IsCut (segment :: segments) (segment :: before) after :=
  ⟨List.cons_ne_nil _ _, cut.nonemptyAfter, congrArg (segment :: ·) cut.split⟩

/-- Segments of an expression between replaced placeholders: before every placeholder all literals
have ended, and no placeholder meets a quote or another replaced placeholder. -/
structure Admits (engine : Engine) (placeholder : String) (segments : List String) : Prop where
  /-- A placeholder stands outside of literals. -/
  outside : ∀ before after, IsCut segments before after →
    engine.Closed (placeholder.intercalate before)
  /-- There is no quote in front of a placeholder. -/
  apartBefore : ∀ before after, IsCut segments before after →
    (placeholder.intercalate before).toList.getLast? ≠ some '\''
  /-- There is no quote behind a placeholder. -/
  apartAfter : ∀ before after, IsCut segments before after →
    (placeholder.intercalate after).toList.head? ≠ some '\''
  /-- There is something between two placeholders. -/
  between : ∀ before segment after, IsCut segments before (segment :: after) → after ≠ [] →
    segment ≠ ""

/-- An expression and its value, if there is one, leave each other's literals alone. -/
def AdmitsSource (engine : Engine) (placeholder : String) : String × Option Value → Prop
  | (expression, none) => engine.Closed expression
  | (expression, some _) =>
      engine.Closed expression ∧ engine.Admits placeholder (Text.segments expression placeholder)

/-- The literals of an expression: those that its author has written, and the text of the value in
the place of every placeholder. -/
def sourceLiterals (engine : Engine) (placeholder : String) : String × Option Value → List String
  | (expression, none) => engine.found expression
  | (expression, some value) =>
      [value.content].intercalate ((Text.segments expression placeholder).map engine.found)

variable {engine : Engine} {placeholder segment : String} {segments : List String}

theorem admits_pair {left right : String} (closed : engine.Closed left)
    (apartBefore : left.toList.getLast? ≠ some '\'') (apartAfter : right.toList.head? ≠ some '\'') :
    engine.Admits placeholder [left, right] := by
  have only (before after : List String) (cut : IsCut [left, right] before after) :
      before = [left] ∧ after = [right] := by
    obtain ⟨someBefore, someAfter, split⟩ := cut
    rcases before with _ | ⟨first, _ | ⟨second, before⟩⟩ <;> simp_all
  constructor
  · intro before after cut
    simpa [(only before after cut).1] using closed
  · intro before after cut
    simpa [(only before after cut).1] using apartBefore
  · intro before after cut
    simpa [(only before after cut).2] using apartAfter
  · intro before segment after cut more
    exact absurd (List.cons.inj (only before _ cut).2).2 more

theorem Admits.first (admits : engine.Admits placeholder (segment :: segments))
    (nonempty : segments ≠ []) :
    engine.Closed segment ∧ segment.toList.getLast? ≠ some '\'' := by
  have closed := admits.outside _ _ (.first segment nonempty)
  have apart := admits.apartBefore _ _ (.first segment nonempty)
  rw [String.intercalate_singleton] at closed apart
  exact ⟨closed, apart⟩

/-- Behind the first placeholder the segments are as in an expression of their own. -/
theorem Admits.tail (free : QuoteFree placeholder)
    (admits : engine.Admits placeholder (segment :: segments)) (nonempty : segments ≠ [])
    (closed : engine.Closed (placeholder.intercalate (segment :: segments))) :
    engine.Closed (placeholder.intercalate segments) ∧ engine.Admits placeholder segments := by
  obtain ⟨firstClosed, firstApart⟩ := admits.first nonempty
  have behind {rest : List String} (present : rest ≠ [])
      (whole : engine.Closed (placeholder.intercalate (segment :: rest))) :
      engine.Closed (placeholder.intercalate rest) := by
    rw [String.intercalate_cons_of_ne_nil present] at whole
    unfold Closed literals? at whole
    rw [readFrom_append, readFrom_append, readFrom_of_getLast? firstClosed.literals?_eq firstApart,
      readFrom_free free, literals?_readFrom_outside, Option.isSome_map] at whole
    exact whole
  refine ⟨behind nonempty closed, ?_⟩
  constructor
  · intro before after cut
    exact behind cut.nonemptyBefore (admits.outside _ _ (cut.cons segment))
  · intro before after cut quote
    apply admits.apartBefore _ _ (cut.cons segment)
    rw [String.intercalate_cons_of_ne_nil cut.nonemptyBefore, String.toList_append,
      List.getLast?_append, quote]
    rfl
  · intro before after cut
    exact admits.apartAfter _ _ (cut.cons segment)
  · intro before middle after cut
    exact admits.between _ _ _ (cut.cons segment)

/-- A literal between the segments is read as its content between the literals of the segments. -/
theorem literals?_intercalate_quote (free : QuoteFree placeholder) (content : String)
    (admits : engine.Admits placeholder segments) (nonempty : segments ≠ [])
    (closed : engine.Closed (placeholder.intercalate segments)) :
    engine.literals? ((engine.quote content).intercalate segments) =
      some ([content].intercalate (segments.map engine.found)) := by
  induction segments with
  | nil => exact absurd rfl nonempty
  | cons segment segments ih =>
      cases segments with
      | nil =>
          have single : engine.Closed segment := by simpa using closed
          simpa using single.literals?_eq
      | cons next rest =>
          obtain ⟨tailClosed, tailAdmits⟩ := admits.tail free (List.cons_ne_nil _ _) closed
          obtain ⟨first, apartBefore⟩ := admits.first (List.cons_ne_nil _ _)
          -- Behind the literal stands the next segment, which does not start with a quote and is not
          -- empty if another literal follows it.
          have cut := IsCut.first segment (List.cons_ne_nil next rest)
          have apartAfter :
              ((engine.quote content).intercalate (next :: rest)).toList.head? ≠ some '\'' := by
            have head := admits.apartAfter _ _ cut
            cases rest with
            | nil => simpa using head
            | cons other rest =>
                have present := admits.between _ _ _ cut (List.cons_ne_nil _ _)
                obtain ⟨c, characters, split⟩ := List.exists_cons_of_ne_nil
                  (mt String.toList_eq_nil_iff.mp present)
                rw [String.intercalate_cons_cons] at head ⊢
                simpa [split] using head
          rw [String.intercalate_cons_cons, String.append_assoc, List.map_cons, List.map_cons,
            List.intercalate_cons_cons]
          have rest := ih tailAdmits (List.cons_ne_nil _ _) tailClosed
          have quoted := literals?_append (literals?_quote content) rest (.inr apartAfter)
          simpa using literals?_append first.literals?_eq quoted (.inl apartBefore)

theorem segments_ne_nil (expression placeholder : String) :
    Text.segments expression placeholder ≠ [] := by
  unfold Text.segments
  split
  · simp
  · simpa using Text.segmentsFrom_ne_nil _ _ _

theorem literals?_source (free : QuoteFree placeholder) {source : String × Option Value}
    (admits : engine.AdmitsSource placeholder source) :
    engine.literals? ((Having.template placeholder source).fill engine.quote) =
      some (engine.sourceLiterals placeholder source) := by
  obtain ⟨expression, _ | value⟩ := source
  · rw [Having.template, Template.fill_text]
    exact Closed.literals?_eq admits
  · rw [Having.fill_template_some, Text.replaceAll_eq_intercalate]
    apply literals?_intercalate_quote free _ admits.2 (segments_ne_nil _ _)
    rw [Text.intercalate_segments]
    exact admits.1

theorem literals?_operand (engine : Engine) (value : Value) :
    engine.literals? (value.operand.fill engine.quote) =
      some (if value.isQuoted then [value.content] else []) := by
  rw [Value.fill_operand]
  cases quoted : value.isQuoted with
  | true => exact literals?_quote value.content
  | false => exact literals?_free (Value.isToken_plainText quoted).quoteFree

end Engine

namespace Call

variable {engine : Engine} (options : Options)

theorem closed_predicates {call : Call} {predicate : Predicate}
    (added : predicate ∈ call.predicates engine.quoter options) :
    engine.Closed predicate.value := by
  obtain ⟨column, value, operator, additive, -, made⟩ := exists_make_of_mem_predicates added
  obtain ⟨frame, -, rfl⟩ := Predicate.exists_frame_of_make engine.computes_quoter made
  exact Engine.closed_of_literals? (engine.literals?_operand value)

theorem found_predicates (statement : Statement) (call : Call) :
    (call.predicates engine.quoter options).flatMap
        (fun predicate => engine.found predicate.value) =
      if (statement.step engine.quoter options call).failure.isNone then call.operands else [] := by
  cases call with
  | filter column value operator additive =>
      simp only [predicates, Statement.step, Predicate.make_eq engine.computes_quoter]
      cases Predicate.checkFrame column (Comparison.operatorFor value
        (Options.orDefault options.defaultOperator operator)) with
      | error failure => rfl
      | ok frame =>
          have literals := Engine.found_of_literals? (engine.literals?_operand value)
          simpa [Except.map, Except.toOption, Effect.change, Effect.accepted, operands]
            using literals
  | _ => simp [predicates, operands]

theorem literals_groupConditions (engine : Engine) (free : QuoteFree options.placeholder)
    {call : Call}
    (admits : ∀ source ∈ call.sources, engine.AdmitsSource options.placeholder source) :
    (∀ having ∈ call.groupConditions engine.quoter options, engine.Closed having.expression) ∧
      (call.groupConditions engine.quoter options).flatMap
          (fun having => engine.found having.expression) =
        call.sources.flatMap (engine.sourceLiterals options.placeholder) := by
  cases call with
  | having expression value additive =>
      have literals (source : String × Option Value) (given : source ∈ Having.sources expression
          (value.map Value.asList)) := Engine.literals?_source free (admits source given)
      simp only [groupConditions, Having.make_eq engine.computes_quoter, Except.toOption,
        Option.getD_some, List.forall_mem_map, List.flatMap_map]
      constructor
      · intro source given
        exact Engine.closed_of_literals? (literals source given)
      · apply List.flatMap_congr
        intro source given
        exact Engine.found_of_literals? (literals source given)
  | _ => exact ⟨List.forall_mem_nil _, rfl⟩

end Call

namespace Builder

variable {engine : Engine} (builder : Builder) (fresh : builder.statement = .empty)
  (quoter : builder.quoter = engine.quoter)

include fresh quoter

theorem literals_predicates_run (calls : List Call) :
    (∀ predicate ∈ (builder.run calls).statement.predicates, engine.Closed predicate.value) ∧
      (builder.run calls).statement.predicates.flatMap
          (fun predicate => engine.found predicate.value) =
        (builder.accepted calls).flatMap Call.operands := by
  rw [predicates_run, fresh, quoter, Statement.empty, List.nil_append]
  constructor
  · intro predicate mem
    obtain ⟨call, -, made⟩ := List.mem_flatMap.mp mem
    exact Call.closed_predicates builder.options made
  · rw [List.flatMap_assoc]
    refine builder.flatMap_accepted (fun statement call => ?_) calls
    rw [quoter]
    exact Call.found_predicates builder.options statement call

theorem literals_having_run (placeholder : QuoteFree builder.options.placeholder)
    {calls : List Call}
    (admits : ∀ source ∈ calls.flatMap Call.sources,
      engine.AdmitsSource builder.options.placeholder source) :
    (∀ having ∈ (builder.run calls).statement.having, engine.Closed having.expression) ∧
      (builder.run calls).statement.having.flatMap
          (fun having => engine.found having.expression) =
        (calls.flatMap Call.sources).flatMap
          (engine.sourceLiterals builder.options.placeholder) := by
  have groups (call : Call) (mem : call ∈ calls) :=
    call.literals_groupConditions builder.options engine placeholder fun source given =>
      admits source (List.mem_flatMap.mpr ⟨call, mem, given⟩)
  rw [having_run, fresh, quoter, Statement.empty, List.nil_append]
  constructor
  · intro condition mem
    obtain ⟨call, callMem, made⟩ := List.mem_flatMap.mp mem
    exact (groups call callMem).1 condition made
  · rw [List.flatMap_assoc, List.flatMap_assoc]
    exact List.flatMap_congr fun call mem => (groups call mem).2

end Builder

/-- No value breaks out of its literal.  The names, operators and other texts of the statement have
no quotes, nor has the placeholder; expressions of conditions on groups may have literals that end,
with the placeholders outside of them.  Then all literals of the statement end, and they are the
texts of the values that the last accepted call for columns assigns, the quoted texts of the
accepted conditions on rows, and the literals of the conditions on groups with the texts of the
values in the place of the placeholders. -/
theorem literals_assemble_run (engine : Engine) (options : Options) (calls : List Call)
    (placeholder : QuoteFree options.placeholder)
    (free : (({ quoter := engine.quoter, options } : Builder).run calls).statement.QuoteFree)
    (admits : ∀ source ∈ calls.flatMap Call.sources,
      engine.AdmitsSource options.placeholder source)
    {sql : String}
    (assembled : (({ quoter := engine.quoter, options } : Builder).run calls).assemble = .ok sql) :
    engine.literals? sql =
      some ((((({ quoter := engine.quoter, options } : Builder).accepted calls).filterMap
          Call.assignment?).getLast?.getD []).map (fun entry => entry.2.content) ++
        (({ quoter := engine.quoter, options } : Builder).accepted calls).flatMap Call.operands ++
        (calls.flatMap Call.sources).flatMap (engine.sourceLiterals options.placeholder)) := by
  let builder : Builder := { quoter := engine.quoter, options }
  have columns : (builder.run calls).statement.assignments =
      ((builder.accepted calls).filterMap Call.assignment?).getLast?.getD [] :=
    builder.assignments_run calls
  obtain ⟨rowsClosed, rows⟩ := builder.literals_predicates_run rfl rfl calls
  obtain ⟨groupsClosed, groups⟩ := builder.literals_having_run rfl rfl placeholder admits
  rw [Builder.assemble, Builder.quoter_run] at assembled
  rw [← columns, ← rows, ← groups]
  exact Statement.literals?_assemble (Builder.coherent_run Statement.coherent_empty calls) free
    rowsClosed groupsClosed assembled

/-- Calls whose values hold quotes, backslashes and the placeholder.  The first call for columns is
refused because the kind is not set, the second is replaced by the third, and the last one is
refused because a number is no dictionary. -/
def hostileCalls : List Call :=
  [.values (.dict [(.text "z", .text "'")]), .update, .table (.text "t"),
    .values (.dict [(.text "z", .text "\\'")]),
    .values (.dict [(.text "a", .text "?'\\"), (.text "b", .list [.text "'"])]), .values (.int 5),
    .filter (.text "c") (.text "?\\' OR 1") .null (.bool true),
    .filter (.text "d") (.int 7) .null (.bool false), .filter .null (.text "e") .null .null,
    .having (.text "f > ? AND g = 'it''s'") (some (.text "'?\\")) (.bool true)]

/-- The literals of a text are read back though the values look like the text around them. -/
theorem literals_hostileCalls :
    Engine.mysql.literals? ("UPDATE t SET a = '?\\'\\\\', b = '[\"\\'\"]' " ++
        "WHERE c = '?\\\\\\' OR 1' OR d = 7 HAVING f > '\\'?\\\\' AND g = 'it''s'") =
      some ["?'\\", "[\"'\"]", "?\\' OR 1", "'?\\", "it's"] := by
  apply literals_assemble_run .mysql .default hostileCalls
  · decide
  · constructor <;> decide +kernel
  · intro source mem
    obtain rfl := List.mem_singleton.mp mem
    refine ⟨by decide +kernel, ?_⟩
    change Engine.mysql.Admits "?" ["f > ", " AND g = 'it''s'"]
    exact Engine.admits_pair (by decide +kernel) (by decide) (by decide)
  · have clauses : (({ quoter := Engine.mysql.quoter, options := .default } : Builder).run
        hostileCalls).statement.clauses Engine.mysql.quoter =
          .ok [some "UPDATE", none, some "t", some "SET a = '?\\'\\\\', b = '[\"\\'\"]'",
            some "WHERE c = '?\\\\\\' OR 1' OR d = 7", none,
            some "HAVING f > '\\'?\\\\' AND g = 'it''s'", none, none] := rfl
    rw [Builder.assemble, Builder.quoter_run, Statement.assemble, clauses]
    exact congrArg Except.ok (by decide +kernel)

end SqlDraft
