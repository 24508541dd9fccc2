import SqlDraft.Proofs.Operand
import SqlDraft.Proofs.Rendering

/-!
# Calls with arguments of the expected types

Names, fields, expressions, operators and directions are texts, or lists and tuples of texts, and
null may stand in the place of some of them; what is compared, assigned or counted may be anything.
A call with such arguments is refused for one of three causes, all of which concern the kind, and
what such calls lead to can always be rendered.
-/

namespace SqlDraft

namespace Value

/-- A text, or null in its place. -/
def IsOptionalText (value : Value) : Prop := value = .null ∨ value.isText = true

/-- One value of a sort, or a list or tuple of them. -/
def OneOrMany (sort : Value → Prop) (value : Value) : Prop :=
  sort value ∨ ∃ items, (value = .list items ∨ value = .tuple items) ∧ ∀ item ∈ items, sort item

/-- One text, or a list or tuple of texts. -/
def AreTexts (value : Value) : Prop := value.OneOrMany fun item => item.isText = true

theorem OneOrMany.isOptionalText {value : Value} (optional : value.OneOrMany IsOptionalText) :
    ∀ item ∈ value.asList, item.IsOptionalText := by
  rcases optional with single | ⟨items, rfl | rfl, each⟩
  · have alone : value.asList = [value] := by
      rcases single with rfl | isText
      · rfl
      · cases value <;> first | rfl | cases isText
    rw [alone]
    intro item mem
    rwa [List.mem_singleton.mp mem]
  · exact each
  · exact each

theorem IsOptionalText.orElse {value : Value} (optional : value.IsOptionalText) :
    (value.orElse (text "")).isText = true := by
  rw [Value.orElse]
  split
  · rename_i truthy
    rcases optional with rfl | isText
    · cases truthy
    · exact isText
  · rfl

end Value

/-- The arguments of the call have the expected types. -/
def Call.IsTyped : Call → Prop
  | .setKind kind => kind.isText = true
  | .select fields => fields = .null ∨ fields.AreTexts
  | .table name => name.isText = true
  | .join tables columns operator joinType =>
      tables.AreTexts ∧ (columns = .null ∨ columns.AreTexts) ∧ operator.IsOptionalText ∧
        joinType.IsOptionalText
  | .filter column _ operator _ => column.isText = true ∧ operator.IsOptionalText
  | .values assigned => ∃ entries : Entries, assigned = .dict entries ∧
      ∀ key ∈ entries.keys, key.isText = true
  | .groupBy fields => fields.AreTexts
  | .having expression _ _ => expression.AreTexts
  | .orderBy fields directions => fields.AreTexts ∧ directions.OneOrMany Value.IsOptionalText
  | .limit _ | .offset _ => True

namespace Field

theorem check_of_isText {value : Value} (isText : value.isText = true) (name : String) :
    check readText name value = .ok (value.asText?.getD "") := by
  cases value <;> first | rfl | cases isText

theorem check_orDefault {value : Value} (optional : value.IsOptionalText) (setting name : String) :
    ∃ content, check readText name (Options.orDefault setting value) = .ok content := by
  rcases optional with rfl | isText
  · exact ⟨setting, rfl⟩
  · have kept : Options.orDefault setting value = value := by
      cases value <;> first | rfl | cases isText
    rw [kept]
    exact ⟨_, check_of_isText isText name⟩

end Field

theorem Field.check_optional {value : Value} (optional : value.IsOptionalText) (name : String) :
    ∃ content, check readOptionalText name value = .ok content := by
  rcases optional with rfl | isText
  · exact ⟨none, rfl⟩
  · cases value <;> first | exact ⟨some _, rfl⟩ | cases isText

namespace Join

/-- The joined table is a text, and the other one is left out or a text. -/
theorem exists_tables {value : Value} (texts : value.AreTexts) :
    ∃ own other, tables value = .ok (own, other) ∧ own.isText = true ∧ other.IsOptionalText := by
  rcases texts with single | ⟨items, sequence, each⟩
  · obtain ⟨content, shown⟩ := Option.isSome_iff_exists.mp single
    exact ⟨.text content, .null, by simp only [tables, shown], rfl, .inl rfl⟩
  · have listed : value.asText? = none ∧ value.items? = some items := by
      rcases sequence with rfl | rfl <;> exact ⟨rfl, rfl⟩
    match items, each with
    | [], _ => exact ⟨.text "", .null, by simp only [tables, listed], rfl, .inl rfl⟩
    | [own], each =>
        exact ⟨own, .null, by simp only [tables, listed],
          each own (List.mem_singleton_self own), .inl rfl⟩
    | own :: next :: rest, each =>
        refine ⟨own, (next :: rest).getLast (List.cons_ne_nil _ _), by simp only [tables, listed],
          each own List.mem_cons_self, .inr ?_⟩
        exact each _ (List.mem_cons_of_mem own (List.getLast_mem _))

theorem exists_make (options : Options) {table operator joinType : Value} (columns : Value)
    (texts : table.AreTexts) (comparison : operator.IsOptionalText)
    (type : joinType.IsOptionalText) :
    ∃ join, make options table columns operator joinType = .ok join := by
  obtain ⟨own, other, named, isText, optional⟩ := exists_tables texts
  have first := Field.check_of_isText isText "table"
  obtain ⟨_, second⟩ := Field.check_optional optional "right_table"
  obtain ⟨_, third⟩ := Field.check_orDefault comparison options.defaultOperator "operator"
  obtain ⟨_, fourth⟩ := Field.check_orDefault type options.defaultJoinType "join_type"
  rw [make, named]
  simp only [bind, Except.bind, check, Field.require, first, second, third, fourth]
  exact ⟨_, rfl⟩

end Join

theorem Predicate.exists_make {quoter : Quoter} {quote : String → String}
    (computes : quoter.Computes quote) (options : Options) {column operator : Value}
    (value additive : Value) (isText : column.isText = true)
    (comparison : operator.IsOptionalText) :
    ∃ predicate, make quoter column value (Options.orDefault options.defaultOperator operator)
      additive = .ok predicate := by
  have first := Field.check_of_isText isText "column"
  have second : ∃ content, Field.check Field.readText "operator" (Comparison.operatorFor value
      (Options.orDefault options.defaultOperator operator)) = .ok content := by
    cases value with
    | null => exact ⟨_, rfl⟩
    | _ => exact Field.check_orDefault comparison options.defaultOperator "operator"
  obtain ⟨_, second⟩ := second
  rw [make_eq computes, checkFrame, first, second]
  exact ⟨_, rfl⟩

theorem OrderTerm.exists_make {directions : Value} (fields : Value)
    (optional : directions.OneOrMany Value.IsOptionalText) :
    ∃ terms, make fields directions = .ok terms := by
  have each : ∀ pair ∈ fields.asList.zip directions.asList,
      (check (some (.text pair.1.display)) (pair.2.orElse (.text ""))).outcome .orderTerm =
        .ok ⟨pair.1.display, ((pair.2.orElse (.text "")).asText?).getD ""⟩ := by
    intro pair paired
    have isText := (optional.isOptionalText _ (List.of_mem_zip paired).2).orElse
    rw [check, Field.check_of_isText isText]
    rfl
  exact ⟨_, mapM_of_forall_ok each⟩

/-- The causes for which a call with arguments of the expected types is refused. -/
inductive Statement.Refuses (statement : Statement) : Call → Failure → Prop
  /-- A kind is asked for while one is set, be it the same. -/
  | kindSet {call : Call} {requested current : Kind} (requests : call.Requests requested)
      (set : statement.kind = some current) :
      Refuses statement call (.statement (.alreadySet current.name requested.name))
  /-- What is asked for is the name of no kind. -/
  | unknownKind {value : Value} (unknown : ∀ kind : Kind, value.asText? ≠ some kind.name) :
      Refuses statement (.setKind value) (.unknownKind value)
  /-- Columns are assigned while the kind, if it is set, assigns none. -/
  | valuesNotAllowed {values : Value} (other : ¬ statement.kind.any Kind.assigns = true) :
      Refuses statement (.values values)
        (.statement (.notAllowed "values" (statement.kind.map Kind.name)))

namespace Statement

variable {quoter : Quoter} {quote : String → String} {statement : Statement} {call : Call}

theorem exists_selection {fields : Value} (texts : fields.AreTexts) :
    ∃ projection, selection fields = .ok projection := by
  rcases texts with single | ⟨items, rfl | rfl, -⟩
  · obtain ⟨content, shown⟩ := Option.isSome_iff_exists.mp single
    exact ⟨.text content, by simp only [selection, shown]⟩
  · exact ⟨.list items, rfl⟩
  · exact ⟨.list items, rfl⟩

/-- Calls about joins, conditions and the ordering are not refused, nor are those that store their
argument. -/
theorem failure_step_of_ne_kind (computes : quoter.Computes quote) (options : Options)
    (typed : call.IsTyped) (other : call.category ≠ .kind) :
    (statement.step quoter options call).failure = none := by
  cases call with
  | setKind | select | values => exact absurd rfl other
  | table | groupBy | limit | offset => rfl
  | join tables columns operator joinType =>
      obtain ⟨texts, -, comparison, type⟩ := typed
      obtain ⟨join, made⟩ := Join.exists_make options columns texts comparison type
      rw [step, made]
      rfl
  | filter column value operator additive =>
      obtain ⟨predicate, made⟩ :=
        Predicate.exists_make computes options value additive typed.1 typed.2
      rw [step, made]
      rfl
  | having expression value additive =>
      rw [step, Having.make_eq computes]
      rfl
  | orderBy fields directions =>
      obtain ⟨terms, made⟩ := OrderTerm.exists_make fields typed.2
      rw [step, made]
      rfl

theorem refuses_of_setKind {value : Value} {failure : Failure}
    (failed : (statement.setKind value).failure = some failure) :
    statement.Refuses (.setKind value) failure := by
  cases named : kindOf? value with
  | none =>
      rw [setKind_of_unknown named] at failed
      obtain rfl := Option.some.inj failed
      refine .unknownKind fun kind shown => ?_
      rw [kindOf?_eq_some_iff.mpr shown] at named
      cases named
  | some requested =>
      cases set : statement.kind with
      | none =>
          rw [setKind_of_unset named set] at failed
          cases failed
      | some current =>
          rw [setKind_of_set named set] at failed
          obtain rfl := Option.some.inj failed
          exact .kindSet (kindOf?_eq_some_iff.mp named) set

theorem refuses_of_select {fields : Value} (typed : fields = .null ∨ fields.AreTexts)
    {failure : Failure} (failed : (statement.select fields).failure = some failure) :
    statement.Refuses (.select fields) failure := by
  cases set : statement.kind with
  | none =>
      rw [select_of_unset fields set] at failed
      rcases typed with rfl | texts
      · cases failed
      · obtain ⟨projection, kept⟩ := exists_selection texts
        rw [kept] at failed
        split at failed <;> cases failed
  | some current =>
      rw [select_of_set fields set] at failed
      obtain rfl := Option.some.inj failed
      exact .kindSet rfl set

theorem refuses_of_setValues {entries : Entries} {failure : Failure}
    (failed : (statement.setValues (.dict entries)).failure = some failure) :
    statement.Refuses (.values (.dict entries)) failure := by
  by_cases assigns : statement.kind.any Kind.assigns = true
  · rw [setValues_of_assigns assigns rfl] at failed
    cases failed
  · rw [setValues, if_neg assigns] at failed
    obtain rfl := Option.some.inj failed
    exact .valuesNotAllowed assigns

/-- A call with arguments of the expected types is refused for these causes alone, and each of them
lets it be refused. -/
theorem failure_step_eq_some_iff (computes : quoter.Computes quote) (options : Options)
    (typed : call.IsTyped) (failure : Failure) :
    (statement.step quoter options call).failure = some failure ↔
      statement.Refuses call failure := by
  constructor
  · intro failed
    by_cases about : call.category = .kind
    · cases call with
      | setKind value => exact refuses_of_setKind failed
      | select fields => exact refuses_of_select typed failed
      | values values =>
          obtain ⟨entries, rfl, -⟩ := typed
          exact refuses_of_setValues failed
      | _ => cases about
    · rw [failure_step_of_ne_kind computes options typed about] at failed
      cases failed
  · rintro (⟨requests, set⟩ | unknown | other)
    · exact failure_step_of_requests quoter options requests set
    · exact failure_step_of_unknown quoter options unknown
    · rename_i values
      rw [step, setValues, if_neg other]
      rfl

/-- Selected fields and assigned columns are texts. -/
structure IsTyped (statement : Statement) : Prop where
  /-- The selected fields of a list. -/
  fields : ∀ items, statement.projection = .list items → ∀ item ∈ items, item.isText = true
  /-- The assigned columns. -/
  columns : ∀ key ∈ statement.assignments.keys, key.isText = true

theorem isTyped_empty : Statement.empty.IsTyped where
  fields := fun _ kept => by cases kept
  columns := List.forall_mem_nil _

theorem IsTyped.not_unrenderable (typed : statement.IsTyped) : ¬ statement.Unrenderable := by
  rintro (⟨-, items, kept, item, mem, noText⟩ | ⟨-, key, mem, noText⟩)
  · rw [typed.fields items kept item mem] at noText
    cases noText
  · rw [typed.columns key mem] at noText
    cases noText

theorem isText_of_selection {fields : Value} (texts : fields.AreTexts) {items : List Value}
    (kept : selection fields = .ok (.list items)) : ∀ item ∈ items, item.isText = true := by
  rcases texts with single | ⟨given, rfl | rfl, each⟩
  · obtain ⟨content, shown⟩ := Option.isSome_iff_exists.mp single
    simp [selection, shown] at kept
  · obtain rfl : given = items := by simpa [selection, Value.asText?, Value.items?] using kept
    exact each
  · obtain rfl : given = items := by simpa [selection, Value.asText?, Value.items?] using kept
    exact each

theorem isTyped_step (typed : statement.IsTyped) (quoter : Quoter) (options : Options)
    (expected : call.IsTyped) : (statement.step quoter options call).statement.IsTyped := by
  by_cases about : call.category = .kind
  · cases call with
    | setKind value =>
        rcases statement.statement_setKind value with same | ⟨kind, -, -, set⟩
        · rwa [step, same]
        · rw [step, set]
          exact ⟨typed.fields, typed.columns⟩
    | select fields =>
        rcases statement.statement_select fields with
          same | ⟨-, set | ⟨projection, truthy, kept, set⟩⟩
        · rwa [step, same]
        · rw [step, set]
          exact ⟨typed.fields, typed.columns⟩
        · rw [step, set]
          refine ⟨?_, typed.columns⟩
          rintro items rfl
          rcases expected with rfl | texts
          · cases truthy
          · exact isText_of_selection texts kept
    | values values =>
        rcases statement.setValues_cases values with
          ⟨failure, notes, refused⟩ | ⟨assignments, -, read, set⟩
        · rwa [step, refused]
        · rw [step, set]
          obtain ⟨entries, rfl, texts⟩ := expected
          obtain rfl := Except.ok.inj read
          exact ⟨typed.fields, texts⟩
    | _ => cases about
  · obtain ⟨-, projection, assignments⟩ := statement.kind_step_of_ne quoter options about
    exact ⟨by rw [projection]; exact typed.fields, by rw [assignments]; exact typed.columns⟩

end Statement

end SqlDraft
