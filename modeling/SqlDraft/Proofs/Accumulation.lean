import Mathlib.Data.List.Forall2
import SqlDraft.Proofs.Dictionary
import SqlDraft.Proofs.Kind

/-!
# What a run accumulates

The joins and the conditions of a statement are those that the calls of its run have added, in the
order of the calls, and what a call adds does not depend on the statement.  The other fields do not
depend on the quoter, and the assigned columns are those of the last accepted call that assigns any.
-/

namespace SqlDraft

namespace Effect

variable {α β : Type}

theorem failure_change (statement other : Statement) (value : Except Failure α)
    (update updateOther : α → Statement) :
    (change statement value update).failure = (change other value updateOther).failure := by
  cases value <;> rfl

theorem change_map (statement : Statement) (value : Except Failure α) (function : α → β)
    (update : β → Statement) :
    change statement (value.map function) update = change statement value (update ∘ function) := by
  cases value <;> rfl

end Effect

namespace Call

variable (quoter : Quoter) (options : Options)

/-- The joined tables that a call adds. -/
def joins : Call → List Join
  | .join tables columns operator joinType =>
      (Join.make options tables columns operator joinType).toOption.toList
  | _ => []

/-- The conditions on rows that a call adds. -/
def predicates : Call → List Predicate
  | .filter column value operator additive =>
      (Predicate.make quoter column value (Options.orDefault options.defaultOperator operator)
        additive).toOption.toList
  | _ => []

/-- The conditions on groups that a call adds. -/
def groupConditions : Call → List Having
  | .having expression value additive =>
      (Having.make quoter options.placeholder expression (value.map Value.asList)
        additive).toOption.getD []
  | _ => []

/-- The columns that a call assigns, if it is about columns. -/
def assignment? : Call → Option Entries
  | .values assigned => some assigned.entries
  | _ => none

variable {quoter options}

theorem exists_make_of_mem_predicates {call : Call} {predicate : Predicate}
    (added : predicate ∈ call.predicates quoter options) :
    ∃ column value operator additive, call = .filter column value operator additive ∧
      Predicate.make quoter column value (Options.orDefault options.defaultOperator operator)
        additive = .ok predicate := by
  cases call with
  | filter column value operator additive =>
      refine ⟨column, value, operator, additive, rfl, ?_⟩
      rw [predicates, Option.mem_toList] at added
      generalize Predicate.make _ _ _ _ _ = made at added
      cases made with
      | error failure => cases added
      | ok other => exact congrArg Except.ok (Option.some.inj added)
  | _ => cases added

end Call

namespace Statement

variable (quoter : Quoter) (options : Options) (statement : Statement)

/-- A call adds items to the field of a category if the calls of the category do and the other calls
have none to add. -/
theorem accumulated_step {α : Type} {field : Statement → List α} {added : Call → List α}
    (category : Category) (reads : ∀ statement, field (only statement category) = field statement)
    (own : ∀ call, call.category = category →
      field (statement.step quoter options call).statement = field statement ++ added call)
    (others : ∀ call, call.category ≠ category → added call = []) (call : Call) :
    field (statement.step quoter options call).statement = field statement ++ added call := by
  by_cases same : call.category = category
  · exact own call same
  · rw [others call same, List.append_nil, ← reads, only_step_of_ne _ _ _ (Ne.symm same), reads]

theorem joins_step (call : Call) :
    (statement.step quoter options call).statement.joins =
      statement.joins ++ call.joins options := by
  refine accumulated_step quoter options statement .join (fun _ => rfl) ?_ ?_ call
  · intro call same
    cases call with
    | join tables columns operator joinType =>
        simp only [step, Call.joins]
        cases Join.make options tables columns operator joinType with
        | error failure => simp [Effect.change, Effect.refused, Except.toOption]
        | ok join => rfl
    | _ => cases same
  · intro call other
    cases call <;> first | rfl | exact absurd rfl other

theorem predicates_step (call : Call) :
    (statement.step quoter options call).statement.predicates =
      statement.predicates ++ call.predicates quoter options := by
  refine accumulated_step quoter options statement .filter (fun _ => rfl) ?_ ?_ call
  · intro call same
    cases call with
    | filter column value operator additive =>
        simp only [step, Call.predicates]
        cases Predicate.make quoter column value
          (Options.orDefault options.defaultOperator operator) additive with
        | error failure => simp [Effect.change, Effect.refused, Except.toOption]
        | ok predicate => rfl
    | _ => cases same
  · intro call other
    cases call <;> first | rfl | exact absurd rfl other

theorem having_step (call : Call) :
    (statement.step quoter options call).statement.having =
      statement.having ++ call.groupConditions quoter options := by
  refine accumulated_step quoter options statement .having (fun _ => rfl) ?_ ?_ call
  · intro call same
    cases call with
    | having expression value additive =>
        simp only [step, Call.groupConditions]
        cases Having.make quoter options.placeholder expression (value.map Value.asList)
          additive with
        | error failure => simp [Effect.change, Effect.refused, Except.toOption]
        | ok conditions => rfl
    | _ => cases same
  · intro call other
    cases call <;> first | rfl | exact absurd rfl other

theorem isNone_failure_step_filter (column value operator additive : Value) :
    (statement.step quoter options (.filter column value operator additive)).failure.isNone =
      (Predicate.make quoter column value (Options.orDefault options.defaultOperator operator)
        additive).toOption.isSome := by
  simp only [step]
  generalize Predicate.make _ _ _ _ _ = made
  cases made <;> rfl

/-- Only conditions need the quoter. -/
theorem step_eq_of_quoter (other : Quoter) {call : Call} (noFilter : call.category ≠ .filter)
    (noHaving : call.category ≠ .having) :
    statement.step quoter options call = statement.step other options call := by
  cases call <;> first | rfl | exact absurd rfl noFilter | exact absurd rfl noHaving

theorem assignments_step_of_none {call : Call} (none : call.assignment? = none) :
    (statement.step quoter options call).statement.assignments = statement.assignments := by
  by_cases about : call.category = .kind
  · cases call with
    | setKind value =>
        rcases statement.statement_setKind value with same | ⟨kind, -, -, set⟩
        · simp only [step, same]
        · simp only [step, set]
    | select fields =>
        rcases statement.statement_select fields with same | ⟨-, set | ⟨projection, -, -, set⟩⟩
        · simp only [step, same]
        · simp only [step, set]
        · simp only [step, set]
    | values values => cases none
    | _ => cases about
  · exact (statement.kind_step_of_ne quoter options about).2.2

theorem assignments_step (call : Call) :
    (statement.step quoter options call).statement.assignments =
      if (statement.step quoter options call).failure.isNone then
        call.assignment?.getD statement.assignments
      else
        statement.assignments := by
  cases assigned : call.assignment? with
  | none => rw [Option.getD_none, ite_self, assignments_step_of_none quoter options _ assigned]
  | some entries =>
      cases call with
      | values values =>
          obtain rfl := Option.some.inj assigned
          rcases statement.setValues_cases values with
            ⟨failure, notes, refused⟩ | ⟨assignments, -, read, set⟩
          · rw [step, refused]
            rfl
          · rw [step, set]
            exact Entries.ofValue_eq read
      | _ => cases assigned

theorem ofValue_eq_of_accepted {values : Value}
    (accepted : (statement.step quoter options (.values values)).failure.isNone = true) :
    Entries.ofValue values = .ok values.entries := by
  rcases statement.setValues_cases values with
    ⟨failure, notes, refused⟩ | ⟨assignments, -, read, -⟩
  · rw [step, refused] at accepted
    cases accepted
  · rw [← Entries.ofValue_eq read, read]

end Statement

namespace Builder

theorem accumulated_run {α : Type} {field : Statement → List α}
    {added : Quoter → Options → Call → List α}
    (step : ∀ quoter options statement call,
      field (Statement.step quoter options statement call).statement =
        field statement ++ added quoter options call)
    (builder : Builder) (calls : List Call) :
    field (builder.run calls).statement =
      field builder.statement ++ calls.flatMap (added builder.quoter builder.options) := by
  induction calls generalizing builder with
  | nil => simp
  | cons call calls ih =>
      rw [run_cons, ih, List.flatMap_cons, ← List.append_assoc]
      congr 1
      exact step _ _ _ call

theorem predicates_run (builder : Builder) (calls : List Call) :
    (builder.run calls).statement.predicates =
      builder.statement.predicates ++
        calls.flatMap (Call.predicates builder.quoter builder.options) :=
  accumulated_run Statement.predicates_step builder calls

theorem having_run (builder : Builder) (calls : List Call) :
    (builder.run calls).statement.having =
      builder.statement.having ++
        calls.flatMap (Call.groupConditions builder.quoter builder.options) :=
  accumulated_run Statement.having_step builder calls

/-- The calls of a run that are not refused. -/
def accepted (builder : Builder) : List Call → List Call
  | [] => []
  | call :: calls =>
      if (builder.effect call).failure.isNone then call :: (builder.apply call).accepted calls
      else (builder.apply call).accepted calls

/-- What calls yield unless they are refused is what the accepted calls yield. -/
theorem flatMap_accepted {α : Type} {made given : Call → List α} (builder : Builder)
    (each : ∀ statement call, made call =
      if (Statement.step builder.quoter builder.options statement call).failure.isNone then
        given call
      else
        [])
    (calls : List Call) : calls.flatMap made = (builder.accepted calls).flatMap given := by
  induction calls generalizing builder with
  | nil => rfl
  | cons call calls ih =>
      have rest := ih (builder.apply call) each
      rw [List.flatMap_cons, each builder.statement call, rest, accepted, effect]
      split <;> rfl

/-- The conditions on rows of a run belong, one by one, to its accepted calls for conditions on
rows. -/
theorem forall₂_predicates {relates : Call → Predicate → Prop} (builder : Builder)
    (each : ∀ column value operator additive predicate,
      Predicate.make builder.quoter column value
        (Options.orDefault builder.options.defaultOperator operator) additive = .ok predicate →
      relates (.filter column value operator additive) predicate)
    (calls : List Call) :
    List.Forall₂ relates ((builder.accepted calls).filter fun call => call.category = .filter)
      (calls.flatMap (Call.predicates builder.quoter builder.options)) := by
  induction calls generalizing builder with
  | nil => exact .nil
  | cons call calls ih =>
      have rest : List.Forall₂ relates
          (((builder.apply call).accepted calls).filter fun call => call.category = .filter)
          (calls.flatMap (Call.predicates builder.quoter builder.options)) :=
        ih (builder.apply call) each
      rw [accepted, List.flatMap_cons]
      by_cases about : call.category = .filter
      · cases call with
        | filter column value operator additive =>
            rw [effect, Statement.isNone_failure_step_filter, Call.predicates]
            cases made : Predicate.make builder.quoter column value
                (Options.orDefault builder.options.defaultOperator operator) additive with
            | error failure => exact rest
            | ok predicate => exact .cons (each _ _ _ _ _ made) rest
        | _ => cases about
      · have nothing : call.predicates builder.quoter builder.options = [] := by
          cases call <;> first | rfl | exact absurd rfl about
        rw [nothing, List.nil_append]
        split
        · simpa [about] using rest
        · exact rest

theorem mem_accepted {builder : Builder} {calls : List Call} {call : Call}
    (mem : call ∈ builder.accepted calls) :
    call ∈ calls ∧ ∃ statement : Statement,
      (statement.step builder.quoter builder.options call).failure.isNone = true := by
  induction calls generalizing builder with
  | nil => cases mem
  | cons first calls ih =>
      have behind (mem : call ∈ (builder.apply first).accepted calls) := ih mem
      rw [accepted] at mem
      split at mem
      · rcases List.mem_cons.mp mem with rfl | mem
        · exact ⟨List.mem_cons_self, builder.statement, by assumption⟩
        · exact (behind mem).imp_left (List.mem_cons_of_mem first)
      · exact (behind mem).imp_left (List.mem_cons_of_mem first)

/-- The columns assigned after a run are those of the last accepted call that assigns any. -/
theorem assignments_run (builder : Builder) (calls : List Call) :
    (builder.run calls).statement.assignments =
      ((builder.accepted calls).filterMap Call.assignment?).getLast?.getD
        builder.statement.assignments := by
  induction calls generalizing builder with
  | nil => rfl
  | cons call calls ih =>
      have step : (builder.apply call).statement.assignments = _ :=
        Statement.assignments_step builder.quoter builder.options builder.statement call
      rw [run_cons, ih, step, accepted, effect]
      -- What the first call assigns counts only if no accepted call behind it assigns anything.
      split
      · cases assigned : call.assignment? with
        | none => rw [List.filterMap_cons_none assigned, Option.getD_none]
        | some entries =>
            rw [List.filterMap_cons_some assigned, List.getLast?_cons, Option.getD_some,
              Option.getD_some]
      · rfl

theorem assignments_run_cases (builder : Builder) (calls : List Call) :
    (builder.run calls).statement.assignments = builder.statement.assignments ∨
      ∃ values, .values values ∈ calls ∧
        Entries.ofValue values = .ok (builder.run calls).statement.assignments := by
  rw [assignments_run]
  cases last : ((builder.accepted calls).filterMap Call.assignment?).getLast? with
  | none => exact Or.inl rfl
  | some entries =>
      obtain ⟨call, made, assigned⟩ := List.mem_filterMap.mp (List.mem_of_getLast? last)
      obtain ⟨mem, statement, accepted⟩ := mem_accepted made
      cases call with
      | values values =>
          obtain rfl := Option.some.inj assigned
          exact Or.inr ⟨values, mem, Statement.ofValue_eq_of_accepted _ _ _ accepted⟩
      | _ => cases assigned

/-- Builders that differ in nothing but the quoter have statements that differ in nothing but the
conditions. -/
theorem only_run_of_quoter {category : Category} (noFilter : category ≠ .filter)
    (noHaving : category ≠ .having) (builder other : Builder)
    (options : builder.options = other.options)
    (agree : builder.statement.only category = other.statement.only category)
    (calls : List Call) :
    (builder.run calls).statement.only category = (other.run calls).statement.only category := by
  induction calls generalizing builder other with
  | nil => exact agree
  | cons call calls ih =>
      apply ih (builder.apply call) (other.apply call) options
      simp only [apply, effect, options]
      by_cases same : call.category = category
      · subst category
        rw [Statement.step_eq_of_quoter _ _ _ other.quoter noFilter noHaving]
        exact Statement.only_step_of_only _ _ agree
      · rw [Statement.only_step_of_ne _ _ _ (Ne.symm same),
          Statement.only_step_of_ne _ _ _ (Ne.symm same), agree]

end Builder
end SqlDraft
