import SqlDraft.Proofs.Accumulation

/-!
# Histories of statements

What has been said of a statement is never taken back: joins and conditions are added behind the
earlier ones, and a kind that is set stays, together with the fields that were selected with it.
One call of a run sets the kind, and every later request of a kind is refused with both kinds.
-/

namespace SqlDraft

/-- The call asks for a kind, by its name or as a selection. -/
def Call.Requests : Call → Kind → Prop
  | .setKind value, kind => value.asText? = some kind.name
  | .select _, kind => kind = .select
  | _, _ => False

namespace Statement

/-- A statement that a later one of the same history extends. -/
structure Extends (earlier later : Statement) : Prop where
  /-- Joins are added behind the earlier ones. -/
  joins : earlier.joins <+: later.joins
  /-- Conditions on rows are added behind the earlier ones. -/
  predicates : earlier.predicates <+: later.predicates
  /-- Conditions on groups are added behind the earlier ones. -/
  having : earlier.having <+: later.having
  /-- The kind stays once it is set, and then the selected fields stay too. -/
  settled : ∀ kind, earlier.kind = some kind →
    later.kind = some kind ∧ later.projection = earlier.projection

variable {earlier middle later : Statement}

theorem Extends.refl (statement : Statement) : statement.Extends statement :=
  ⟨List.prefix_rfl, List.prefix_rfl, List.prefix_rfl, fun _ set => ⟨set, rfl⟩⟩

theorem Extends.trans (first : earlier.Extends middle) (second : middle.Extends later) :
    earlier.Extends later where
  joins := first.joins.trans second.joins
  predicates := first.predicates.trans second.predicates
  having := first.having.trans second.having
  settled := by
    intro kind set
    obtain ⟨kept, fields⟩ := first.settled kind set
    obtain ⟨still, fieldsStill⟩ := second.settled kind kept
    exact ⟨still, fieldsStill.trans fields⟩

variable (quoter : Quoter) (options : Options) {statement : Statement} {call : Call}

/-- A call changes neither a kind that is set nor the fields selected with it. -/
theorem settled_step {kind : Kind} (set : statement.kind = some kind) :
    (statement.step quoter options call).statement.kind = some kind ∧
      (statement.step quoter options call).statement.projection = statement.projection := by
  by_cases about : call.category = .kind
  · cases call with
    | setKind value =>
        rcases statement.statement_setKind value with same | ⟨-, unset, -⟩
        · rw [step, same]
          exact ⟨set, rfl⟩
        · rw [set] at unset
          cases unset
    | select fields =>
        rw [step, select_of_set fields set]
        exact ⟨set, rfl⟩
    | values values =>
        rcases statement.setValues_cases values with
          ⟨failure, notes, refused⟩ | ⟨assignments, -, -, assigned⟩
        · rw [step, refused]
          exact ⟨set, rfl⟩
        · rw [step, assigned]
          exact ⟨set, rfl⟩
    | _ => cases about
  · obtain ⟨kind, projection, -⟩ := statement.kind_step_of_ne quoter options about
    rw [kind, projection]
    exact ⟨set, rfl⟩

theorem extends_step (statement : Statement) (call : Call) :
    statement.Extends (statement.step quoter options call).statement where
  joins := by
    rw [joins_step]
    exact List.prefix_append _ _
  predicates := by
    rw [predicates_step]
    exact List.prefix_append _ _
  having := by
    rw [having_step]
    exact List.prefix_append _ _
  settled := fun _ set => settled_step quoter options set

/-- A kind that is asked for while none is set is set, even if the call is then refused. -/
theorem kind_step_of_requests {requested : Kind} (requests : call.Requests requested)
    (unset : statement.kind = none) :
    (statement.step quoter options call).statement.kind = some requested := by
  cases call with
  | setKind value =>
      rw [step, setKind_of_unset (kindOf?_eq_some_iff.mpr requests) unset]
      rfl
  | select fields =>
      obtain rfl : requested = .select := requests
      rw [step, select_of_unset fields unset]
      cases fields.isTruthy <;> cases selection fields <;> rfl
  | _ => cases requests

theorem step_of_requests {current requested : Kind} (requests : call.Requests requested)
    (set : statement.kind = some current) :
    statement.step quoter options call =
      .refused statement (.statement (.alreadySet current.name requested.name))
        [.rejectedKind requested current] := by
  cases call with
  | setKind value => exact setKind_of_set (kindOf?_eq_some_iff.mpr requests) set
  | select fields =>
      obtain rfl : requested = .select := requests
      exact select_of_set fields set
  | _ => cases requests

theorem failure_step_of_requests {current requested : Kind} (requests : call.Requests requested)
    (set : statement.kind = some current) :
    (statement.step quoter options call).failure =
      some (.statement (.alreadySet current.name requested.name)) := by
  rw [step_of_requests quoter options requests set]
  rfl

theorem failure_step_of_unknown {value : Value}
    (unknown : ∀ kind : Kind, value.asText? ≠ some kind.name) :
    (statement.step quoter options (.setKind value)).failure = some (.unknownKind value) := by
  have none : kindOf? value = none :=
    Option.eq_none_iff_forall_ne_some.mpr fun kind named =>
      unknown kind (kindOf?_eq_some_iff.mp named)
  rw [step, setKind_of_unknown none]
  rfl

/-- Only a call that asks for a kind sets one. -/
theorem requests_of_kind_step
    (changed : (statement.step quoter options call).statement.kind ≠ statement.kind) :
    ∃ kind, call.Requests kind ∧ statement.kind = none := by
  by_cases about : call.category = .kind
  · cases call with
    | setKind value =>
        rcases statement.statement_setKind value with same | ⟨kind, unset, named, -⟩
        · rw [step, same] at changed
          exact absurd rfl changed
        · exact ⟨kind, kindOf?_eq_some_iff.mp named, unset⟩
    | select fields =>
        rcases statement.statement_select fields with same | ⟨unset, -⟩
        · rw [step, same] at changed
          exact absurd rfl changed
        · exact ⟨.select, rfl, unset⟩
    | values values =>
        rcases statement.setValues_cases values with
          ⟨failure, notes, refused⟩ | ⟨assignments, -, -, assigned⟩
        · rw [step, refused] at changed
          exact absurd rfl changed
        · rw [step, assigned] at changed
          exact absurd rfl changed
    | _ => cases about
  · exact absurd (statement.kind_step_of_ne quoter options about).1 changed

end Statement

namespace Builder

theorem run_append (builder : Builder) (first second : List Call) :
    builder.run (first ++ second) = (builder.run first).run second :=
  List.foldl_append

theorem run_take_succ (builder : Builder) {calls : List Call} (position : Fin calls.length) :
    builder.run (calls.take (position + 1)) =
      (builder.run (calls.take position)).apply (calls.get position) := by
  rw [List.take_add_one, List.getElem?_eq_getElem position.isLt, run_append]
  rfl

theorem extends_run (builder : Builder) (calls : List Call) :
    builder.statement.Extends (builder.run calls).statement := by
  induction calls generalizing builder with
  | nil => exact .refl _
  | cons call calls ih => exact (Statement.extends_step _ _ _ call).trans (ih (builder.apply call))

theorem extends_run_take (builder : Builder) (calls : List Call) {earlier later : Nat}
    (before : earlier ≤ later) :
    (builder.run (calls.take earlier)).statement.Extends
      (builder.run (calls.take later)).statement := by
  have split := List.take_append_drop earlier (calls.take later)
  rw [List.take_take, Nat.min_eq_left before] at split
  rw [← split, run_append]
  exact extends_run _ _

/-- The call at a position of a run changes the kind. -/
def ChangesKind (builder : Builder) (calls : List Call) (position : Fin calls.length) : Prop :=
  (builder.run (calls.take (position + 1))).statement.kind ≠
    (builder.run (calls.take position)).statement.kind

variable {builder : Builder} {calls : List Call}

theorem ChangesKind.requests {position : Fin calls.length}
    (changes : builder.ChangesKind calls position) :
    ∃ kind, (calls.get position).Requests kind ∧
      (builder.run (calls.take position)).statement.kind = none ∧
      (builder.run (calls.take (position + 1))).statement.kind = some kind := by
  rw [ChangesKind, run_take_succ] at changes
  obtain ⟨kind, requests, unset⟩ := Statement.requests_of_kind_step _ _ changes
  refine ⟨kind, requests, unset, ?_⟩
  rw [run_take_succ]
  exact Statement.kind_step_of_requests _ _ requests unset

theorem ChangesKind.not_lt {first second : Fin calls.length}
    (changes : builder.ChangesKind calls first) (again : builder.ChangesKind calls second) :
    ¬ first < second := by
  intro before
  obtain ⟨kind, -, -, set⟩ := changes.requests
  obtain ⟨-, -, unset, -⟩ := again.requests
  have kept := ((builder.extends_run_take calls before).settled kind set).1
  rw [unset] at kept
  cases kept

/-- The history of a run is monotone.  Between any two points joins and conditions are only added
behind the earlier ones, and a kind that is set stays with the selected fields.  At most one call
changes the kind; it asks for the kind that is then set, and every later request of a kind, be it
the same, is refused with the set and the requested kind.  The first request sets the kind.  What
names no kind is refused in any case. -/
theorem monotone_run (builder : Builder) (calls : List Call) :
    (∀ earlier later, earlier ≤ later →
      (builder.run (calls.take earlier)).statement.Extends
        (builder.run (calls.take later)).statement) ∧
    (∀ first second, builder.ChangesKind calls first → builder.ChangesKind calls second →
      first = second) ∧
    (∀ position, builder.ChangesKind calls position →
      ∃ kind, (calls.get position).Requests kind ∧
        (builder.run (calls.take (position + 1))).statement.kind = some kind ∧
        ∀ later requested, position < later → (calls.get later).Requests requested →
          builder.outcome calls later =
            some (.statement (.alreadySet kind.name requested.name))) ∧
    (∀ position requested, (calls.get position).Requests requested →
      (builder.run (calls.take position)).statement.kind = none →
        builder.ChangesKind calls position) ∧
    (∀ position value, calls.get position = .setKind value →
      (∀ kind : Kind, value.asText? ≠ some kind.name) →
        builder.outcome calls position = some (.unknownKind value)) := by
  refine ⟨?_, ?_, ?_, ?_, ?_⟩
  · intro earlier later before
    exact builder.extends_run_take calls before
  · intro first second changes again
    exact Fin.le_antisymm (Fin.not_lt.mp (again.not_lt changes))
      (Fin.not_lt.mp (changes.not_lt again))
  · intro position changes
    obtain ⟨kind, requests, -, set⟩ := changes.requests
    refine ⟨kind, requests, set, ?_⟩
    intro later requested before asked
    have kept := ((builder.extends_run_take calls before).settled kind set).1
    exact Statement.failure_step_of_requests _ _ asked kept
  · intro position requested requests unset
    have set := Statement.kind_step_of_requests (builder.run (calls.take position)).quoter
      (builder.run (calls.take position)).options requests unset
    rw [ChangesKind, run_take_succ, unset, apply, effect, set]
    exact Option.some_ne_none requested
  · intro position value asked unknown
    rw [outcome, asked]
    exact Statement.failure_step_of_unknown _ _ unknown

/-- A selection that is refused for its fields has set the kind all the same. -/
example :
    let run := [Call.select (.int 5), .insert, .select (.text "a")]
    (({ quoter := .ansi, options := .default } : Builder).run run).statement.kind = some .select ∧
      (({ quoter := .ansi, options := .default } : Builder).run run).statement.projection =
        .null :=
  ⟨rfl, rfl⟩

end Builder
end SqlDraft
