import SqlDraft.Builder.Call
import SqlDraft.Builder.Note
import SqlDraft.Condition.Substitution
import SqlDraft.Statement.Basic

/-!
# Steps

A step applies one call to a statement.  It yields the statement after the call, the failure if the
call is refused, and what is noted on the way.  A refused call leaves the statement as it was, with
one exception: a selection of fields that cannot be iterated has set the kind before it fails.
-/

namespace SqlDraft

/-- The effect of a call. -/
structure Effect where
  /-- The statement after the call. -/
  statement : Statement
  /-- Why the call is refused, if it is. -/
  failure : Option Failure := none
  /-- What is noted. -/
  notes : List Note := []

namespace Effect

/-- A call that succeeds. -/
def accepted (statement : Statement) : Effect := { statement }

/-- A call that is refused. -/
def refused (statement : Statement) (failure : Failure) (notes : List Note) : Effect :=
  ⟨statement, some failure, notes⟩

/-- A call that changes the statement if a value can be had for it. -/
def change {α : Type} (statement : Statement) (value : Except Failure α)
    (update : α → Statement) : Effect :=
  match value with
  | .ok value => accepted (update value)
  | .error failure => refused statement failure []

end Effect

namespace Statement

/-- The kind that a value names. -/
def kindOf? (value : Value) : Option Kind := value.asText?.bind Kind.ofName?

/-- Set the kind. -/
def setKind (statement : Statement) (kind : Value) : Effect :=
  match kindOf? kind, statement.kind with
  | none, _ => .refused statement (.unknownKind kind) []
  | some requested, some current =>
      .refused statement (.statement (.alreadySet current.name requested.name))
        [.rejectedKind requested current]
  | some requested, none => .accepted { statement with kind := some requested }

/-- The selected fields as they are kept: a text, or the list of what is iterated. -/
def selection (fields : Value) : Except Failure Value :=
  match fields.asText?, fields.items? with
  | some content, _ => .ok (.text content)
  | none, some items => .ok (.list items)
  | none, none => .error (.notIterable fields.typeName)

/-- Make the statement a selection; fields that count as false are not kept. -/
def select (statement : Statement) (fields : Value) : Effect :=
  let effect := statement.setKind (.kind .select)
  if effect.failure.isNone && fields.isTruthy then
    .change effect.statement (selection fields) fun projection =>
      { effect.statement with projection }
  else
    effect

/-- Set the assigned columns of an insertion or an update. -/
def setValues (statement : Statement) (values : Value) : Effect :=
  if statement.kind.any Kind.assigns then
    .change statement (Entries.ofValue values) fun assignments => { statement with assignments }
  else
    .refused statement (.statement (.notAllowed "values" (statement.kind.map Kind.name)))
      [.rejectedValues statement.kind]

/-- Apply a call under the given quoter and options. -/
def step (quoter : Quoter) (options : Options) (statement : Statement) : Call → Effect
  | .setKind kind => statement.setKind kind
  | .select fields => statement.select fields
  | .table table => .accepted { statement with table }
  | .join table columns operator joinType =>
      .change statement (Join.make options table columns operator joinType) fun join =>
        { statement with joins := statement.joins ++ [join] }
  | .filter column value operator additive =>
      .change statement
        (Predicate.make quoter column value (Options.orDefault options.defaultOperator operator)
          additive)
        fun predicate => { statement with predicates := statement.predicates ++ [predicate] }
  | .values values => statement.setValues values
  | .groupBy fields => .accepted { statement with grouping := fields.asList.map Value.display }
  | .having expression value additive =>
      .change statement
        (Having.make quoter options.placeholder expression (value.map Value.asList) additive)
        fun having => { statement with having := statement.having ++ having }
  | .orderBy fields directions =>
      .change statement (OrderTerm.make fields directions) fun ordering =>
        { statement with ordering }
  | .limit limit => .accepted { statement with limit }
  | .offset offset => .accepted { statement with offset }

end Statement
end SqlDraft
