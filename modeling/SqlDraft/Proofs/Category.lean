import SqlDraft.Builder.Basic

/-!
# Categories of calls

Calls fall into nine categories, and every field of a statement belongs to one of them.  A call
reads and writes the fields of its own category alone.  A run of calls therefore leaves in the
fields of a category what the calls of that category leave when they are made by themselves.
-/

namespace SqlDraft

/-- The part of a statement that a call is about. -/
inductive Category
  /-- The kind, with the selected fields and the assigned columns that depend on it. -/
  | kind
  | table
  | join
  | filter
  | grouping
  | having
  | ordering
  | limit
  | offset
deriving DecidableEq, Repr

/-- The category of a call. -/
def Call.category : Call → Category
  | .setKind _ | .select _ | .values _ => .kind
  | .table _ => .table
  | .join .. => .join
  | .filter .. => .filter
  | .groupBy _ => .grouping
  | .having .. => .having
  | .orderBy .. => .ordering
  | .limit _ => .limit
  | .offset _ => .offset

namespace Statement

/-- The fields of one category; all others are as in the empty statement. -/
def only (statement : Statement) : Category → Statement
  | .kind =>
      { kind := statement.kind
        projection := statement.projection
        assignments := statement.assignments }
  | .table => { table := statement.table }
  | .join => { joins := statement.joins }
  | .filter => { predicates := statement.predicates }
  | .grouping => { grouping := statement.grouping }
  | .having => { having := statement.having }
  | .ordering => { ordering := statement.ordering }
  | .limit => { limit := statement.limit }
  | .offset => { offset := statement.offset }

/-- A statement that takes the fields of one category from another statement. -/
def splice (statement source : Statement) : Category → Statement
  | .kind =>
      { statement with
        kind := source.kind
        projection := source.projection
        assignments := source.assignments }
  | .table => { statement with table := source.table }
  | .join => { statement with joins := source.joins }
  | .filter => { statement with predicates := source.predicates }
  | .grouping => { statement with grouping := source.grouping }
  | .having => { statement with having := source.having }
  | .ordering => { statement with ordering := source.ordering }
  | .limit => { statement with limit := source.limit }
  | .offset => { statement with offset := source.offset }

@[simp]
theorem only_splice (statement source : Statement) (category : Category) :
    (statement.splice source category).only category = source.only category := by
  cases category <;> rfl

theorem only_splice_of_ne (statement source : Statement) {category other : Category}
    (ne : other ≠ category) :
    (statement.splice source category).only other = statement.only other := by
  cases category <;> cases other <;> first | rfl | exact absurd rfl ne

theorem eq_of_only {left right : Statement}
    (agree : ∀ category, left.only category = right.only category) : left = right := by
  have kind := agree .kind
  have table := agree .table
  have join := agree .join
  have filter := agree .filter
  have grouping := agree .grouping
  have groups := agree .having
  have ordering := agree .ordering
  have limit := agree .limit
  have offset := agree .offset
  cases left
  cases right
  simp_all [only]

end Statement

/-- An effect whose statement takes only the fields of one category from it. -/
def Effect.splice (effect : Effect) (statement : Statement) (category : Category) : Effect :=
  { effect with statement := statement.splice effect.statement category }

namespace Statement

variable (quoter : Quoter) (options : Options) (statement : Statement)

/-- A call reads and writes the fields of its category alone. -/
theorem step_eq_splice (call : Call) :
    statement.step quoter options call =
      ((statement.only call.category).step quoter options call).splice statement call.category := by
  cases call with
  | setKind kind =>
      obtain ⟨_ | current⟩ := statement <;> cases requested : kindOf? kind <;>
        simp only [step, setKind, requested, Call.category, only] <;> rfl
  | select fields =>
      obtain ⟨_ | current⟩ := statement
      · cases truthy : fields.isTruthy <;> cases kept : selection fields <;>
          simp only [step, select, kept, truthy, Call.category, only] <;> rfl
      · rfl
  | values values =>
      obtain ⟨kind⟩ := statement
      cases assigned : kind.any Kind.assigns <;> cases entries : Entries.ofValue values <;>
        simp only [step, setValues, assigned, entries, Call.category, only] <;> rfl
  | table | groupBy | limit | offset => rfl
  | join table columns operator joinType =>
      simp only [step, Call.category]
      cases Join.make options table columns operator joinType <;> rfl
  | filter column value operator additive =>
      simp only [step, Call.category]
      cases Predicate.make quoter column value
        (Options.orDefault options.defaultOperator operator) additive <;> rfl
  | having expression value additive =>
      simp only [step, Call.category]
      cases Having.make quoter options.placeholder expression (value.map Value.asList) additive <;>
        rfl
  | orderBy fields directions =>
      simp only [step, Call.category]
      cases OrderTerm.make fields directions <;> rfl

/-- A call leaves the fields of the other categories alone. -/
theorem only_step_of_ne {category : Category} {call : Call} (other : category ≠ call.category) :
    (statement.step quoter options call).statement.only category = statement.only category := by
  rw [step_eq_splice]
  exact only_splice_of_ne _ _ other

variable {statement} {other : Statement} {call : Call}

theorem failure_step_of_only (agree : statement.only call.category = other.only call.category) :
    (statement.step quoter options call).failure = (other.step quoter options call).failure := by
  rw [step_eq_splice, agree, step_eq_splice quoter options other]
  rfl

theorem only_step_of_only (agree : statement.only call.category = other.only call.category) :
    (statement.step quoter options call).statement.only call.category =
      (other.step quoter options call).statement.only call.category := by
  rw [step_eq_splice, agree, step_eq_splice quoter options other]
  simp only [Effect.splice, only_splice]

end Statement

namespace Builder

@[simp]
theorem run_nil (builder : Builder) : builder.run [] = builder := rfl

@[simp]
theorem run_cons (builder : Builder) (call : Call) (calls : List Call) :
    builder.run (call :: calls) = (builder.apply call).run calls := rfl

@[simp]
theorem quoter_run (builder : Builder) (calls : List Call) :
    (builder.run calls).quoter = builder.quoter := by
  induction calls generalizing builder with
  | nil => rfl
  | cons call calls ih => exact ih (builder.apply call)

@[simp]
theorem options_run (builder : Builder) (calls : List Call) :
    (builder.run calls).options = builder.options := by
  induction calls generalizing builder with
  | nil => rfl
  | cons call calls ih => exact ih (builder.apply call)

/-- The outcome of one call of a run: why it is refused, if it is. -/
def outcome (builder : Builder) (calls : List Call) (position : Fin calls.length) :
    Option Failure :=
  ((builder.run (calls.take position)).effect (calls.get position)).failure

/-- Builders with the same quoter and options whose statements agree on a category still agree on
it after one of them has made a run of calls, and the other only those of the category. -/
theorem only_run_filter (builder other : Builder) {category : Category}
    (quoter : builder.quoter = other.quoter) (options : builder.options = other.options)
    (agree : builder.statement.only category = other.statement.only category)
    (calls : List Call) :
    (builder.run calls).statement.only category =
      (other.run (calls.filter (·.category = category))).statement.only category := by
  induction calls generalizing builder other with
  | nil => exact agree
  | cons call calls ih =>
      by_cases same : call.category = category
      · subst category
        rw [List.filter_cons_of_pos (by simp), run_cons, run_cons]
        apply ih (builder.apply call) (other.apply call) quoter options
        simp only [apply, effect, quoter, options]
        exact Statement.only_step_of_only _ _ agree
      · rw [List.filter_cons_of_neg (by simpa using same), run_cons]
        apply ih (builder.apply call) other quoter options
        exact (Statement.only_step_of_ne _ _ _ (Ne.symm same)).trans agree

/-- The calls of other categories do not show in the fields of a category. -/
theorem only_run (builder : Builder) (category : Category) (calls : List Call) :
    (builder.run calls).statement.only category =
      (builder.run (calls.filter (·.category = category))).statement.only category :=
  only_run_filter builder builder rfl rfl rfl calls

end Builder
end SqlDraft
