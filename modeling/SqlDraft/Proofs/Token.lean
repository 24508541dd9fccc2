import SqlDraft.Proofs.Accumulation
import SqlDraft.Proofs.FirstLiteral
import SqlDraft.Proofs.NumberText

/-!
# Tokens of conditions

What stands behind the operator of a condition on rows is one token.  It is the word for null, the
word for a truth value, a numeral, or a literal, and its class can be read off its text.  A run of
calls leaves a statement whose conditions have, each for itself, a token of the class that the value
of their call asks for.
-/

namespace SqlDraft

/-- A class of tokens that stand for a value in a condition on rows. -/
inductive TokenClass
  | null
  | flag (holds : Bool)
  | number
  /-- A literal with the given content. -/
  | literal (content : String)
deriving DecidableEq, Repr

namespace TokenClass

/-- The text is a token of the class and nothing else. -/
def Admits (engine : Engine) : TokenClass → String → Prop
  | null, text => text = "NULL"
  | flag holds, text => text = if holds then "TRUE" else "FALSE"
  | number, text => IsNumeral text.toList
  | literal content, text => engine.literal? text = some (content, "")

/-- The class of a text that is a token. -/
def ofText (engine : Engine) (text : String) : TokenClass :=
  if text = "NULL" then null
  else if text = "TRUE" then flag true
  else if text = "FALSE" then flag false
  else (engine.literal? text).elim number fun found => literal found.1

variable {engine : Engine} {text : String}

theorem literal?_of_isNumeral (isNumeral : IsNumeral text.toList) :
    engine.literal? text = none := by
  have characters := isNumeral.isNumberText
  unfold Engine.literal?
  split
  · rename_i rest split
    exact absurd (characters '\'' (by simp [split])) (by decide)
  · rfl

theorem Admits.eq_ofText {tokenClass : TokenClass} (admits : tokenClass.Admits engine text) :
    tokenClass = ofText engine text := by
  cases tokenClass with
  | null =>
      obtain rfl : text = "NULL" := admits
      rfl
  | flag holds =>
      obtain rfl : text = if holds then "TRUE" else "FALSE" := admits
      cases holds <;> rfl
  | number =>
      have isNumeral : IsNumeral text.toList := admits
      have apart {word : String} (other : ¬IsNumberText word.toList) : text ≠ word :=
        fun same => other (same ▸ isNumeral.isNumberText)
      rw [ofText, if_neg (apart (by unfold IsNumberText; decide)),
        if_neg (apart (by unfold IsNumberText; decide)),
        if_neg (apart (by unfold IsNumberText; decide)), literal?_of_isNumeral isNumeral]
      rfl
  | literal content =>
      have found : engine.literal? text = some (content, "") := admits
      have apart {word : String} (none : engine.literal? word = none) : text ≠ word := by
        rintro rfl
        rw [none] at found
        cases found
      rw [ofText, if_neg (apart rfl), if_neg (apart rfl), if_neg (apart rfl), found]
      rfl

/-- No text is a token of two classes. -/
theorem eq_of_admits {first second : TokenClass} (left : first.Admits engine text)
    (right : second.Admits engine text) : first = second :=
  left.eq_ofText.trans right.eq_ofText.symm

end TokenClass

namespace Value

/-- The class of tokens that a value asks for. -/
def tokenClass : Value → TokenClass
  | null => .null
  | bool flag => .flag flag
  | value => if value.isNumeric then .number else .literal value.content

theorem admits_operand (engine : Engine) (value : Value) :
    value.tokenClass.Admits engine (value.operand.fill engine.quote) := by
  rw [fill_operand]
  have other (class_eq : value.tokenClass =
        if value.isNumeric then .number else .literal value.content)
      (quoted_eq : value.isQuoted = !value.isNumeric)
      (plain_eq : value.plainText = Text.trim value.display) :
      value.tokenClass.Admits engine
        (if value.isQuoted then engine.quote value.content else value.plainText) := by
    rw [class_eq, quoted_eq, plain_eq]
    cases numeric : value.isNumeric with
    | true => exact isNumeral_trim_display numeric
    | false =>
        have found : engine.literal? (engine.quote value.content ++ "") =
            some (value.content, "") := Engine.literal?_quote_append _ (by simp)
        rwa [String.append_empty] at found
  cases value with
  | null => rfl
  | bool flag => cases flag <;> rfl
  | _ => exact other rfl rfl rfl

theorem admits_operand_iff (engine : Engine) (value : Value) (tokenClass : TokenClass) :
    tokenClass.Admits engine (value.operand.fill engine.quote) ↔ value.tokenClass = tokenClass := by
  constructor
  · exact fun admits => TokenClass.eq_of_admits (value.admits_operand engine) admits
  · rintro rfl
    exact value.admits_operand engine

theorem tokenClass_eq_null_iff (value : Value) : value.tokenClass = .null ↔ value = .null := by
  unfold tokenClass
  split
  · simp
  · simp
  · rename_i notNull _
    split_ifs <;> simpa using notNull

theorem tokenClass_eq_flag_iff (value : Value) (flag : Bool) :
    value.tokenClass = .flag flag ↔ value = .bool flag := by
  unfold tokenClass
  split
  · simp
  · simp
  · rename_i notFlag
    split_ifs <;> simpa using notFlag flag

theorem tokenClass_eq_number_iff (value : Value) :
    value.tokenClass = .number ↔ value.isNumeric = true := by
  unfold tokenClass
  split
  · simp [isNumeric]
  · simp [isNumeric]
  · split_ifs with numeric <;> simp [numeric]

theorem tokenClass_eq_literal_iff (value : Value) (content : String) :
    value.tokenClass = .literal content ↔ value.isQuoted = true ∧ value.content = content := by
  unfold tokenClass isQuoted
  split
  · simp
  · simp
  · split_ifs with numeric <;> simp [numeric]

end Value

namespace Comparison

/-- Nothing but the text asks for equality; no kind of statement has the name of the operator. -/
theorem nullOperator_of_ne {operator : Value} (other : operator ≠ .text "=") :
    nullOperator operator = .text "IS NOT" := by
  have apart : operator.asText? ≠ some equality := by
    cases operator with
    | text content => simpa [Value.asText?, equality] using other
    | kind which => cases which <;> decide
    | _ => simp [Value.asText?]
  rw [nullOperator, if_neg apart]

end Comparison

namespace Predicate

/-- A condition compares with a value.  The token behind its operator tells what the value is. -/
structure Compares (engine : Engine) (value requested : Value) (predicate : Predicate) : Prop where
  /-- The word for null stands for null alone. -/
  null_iff : predicate.value = "NULL" ↔ value = .null
  /-- The words for truth values stand for them alone. -/
  flag_iff : ∀ flag, (predicate.value = if flag then "TRUE" else "FALSE") ↔ value = .bool flag
  /-- A numeral stands for what may stand unquoted as a number. -/
  number_iff : IsNumeral predicate.value.toList ↔ value.isNumeric = true
  /-- One literal, with nothing behind it, stands for the text of anything else. -/
  literal_iff : ∀ content, engine.literal? predicate.value = some (content, "") ↔
    value.isQuoted = true ∧ value.content = content
  /-- Null is compared by `IS` if equality is asked for. -/
  is_of_equality : value = .null → requested = .text "=" → predicate.operator = "IS"
  /-- Null is compared by `IS NOT` whatever else is asked for. -/
  isNot_of_other : value = .null → requested ≠ .text "=" → predicate.operator = "IS NOT"
  /-- Any other value is compared by the operator that is asked for. -/
  operator_eq : value ≠ .null → Field.readText requested = .ok predicate.operator

theorem compares_of_make {engine : Engine} {column value requested additive : Value}
    {predicate : Predicate}
    (made : make engine.quoter column value requested additive = .ok predicate) :
    predicate.Compares engine value requested := by
  obtain ⟨frame, checked, rfl⟩ := exists_frame_of_make engine.computes_quoter made
  have operator := (readText_of_checkFrame checked).2
  have token := value.admits_operand_iff engine
  exact {
    null_iff := (token .null).trans value.tokenClass_eq_null_iff
    flag_iff := fun flag => (token (.flag flag)).trans (value.tokenClass_eq_flag_iff flag)
    number_iff := (token .number).trans value.tokenClass_eq_number_iff
    literal_iff := fun content =>
      (token (.literal content)).trans (value.tokenClass_eq_literal_iff content)
    is_of_equality := by
      rintro rfl rfl
      exact (Except.ok.inj operator).symm
    isNot_of_other := by
      rintro rfl other
      rw [Comparison.operatorFor, Comparison.nullOperator_of_ne other] at operator
      exact (Except.ok.inj operator).symm
    operator_eq := fun notNull => by rwa [Comparison.operatorFor_of_ne notNull] at operator }

theorem Compares.operator_of_null {engine : Engine} {value requested : Value}
    {predicate : Predicate} (compares : predicate.Compares engine value requested)
    (null : predicate.value = "NULL") :
    predicate.operator = "IS" ∨ predicate.operator = "IS NOT" := by
  have isNull := compares.null_iff.mp null
  by_cases equality : requested = .text "="
  · exact .inl (compares.is_of_equality isNull equality)
  · exact .inr (compares.isNot_of_other isNull equality)

end Predicate

/-- The condition on rows that a call has added to a statement. -/
def Call.Adds (engine : Engine) (options : Options) (call : Call) (predicate : Predicate) : Prop :=
  ∃ column value operator additive, call = .filter column value operator additive ∧
    predicate.Compares engine value (Options.orDefault options.defaultOperator operator)

/-- After any run the conditions on rows are those of the accepted calls, each with the one token
that the value of its call asks for, and no text is a token of two classes.  Null is compared by
nothing but `IS` and `IS NOT`. -/
theorem Builder.adds_run (engine : Engine) (options : Options) (calls : List Call) :
    let builder : Builder := { quoter := engine.quoter, options }
    (∀ text (first second : TokenClass),
      first.Admits engine text → second.Admits engine text → first = second) ∧
    List.Forall₂ (Call.Adds engine options)
      ((builder.accepted calls).filter fun call => call.category = .filter)
      (builder.run calls).statement.predicates ∧
    ∀ predicate ∈ (builder.run calls).statement.predicates, predicate.value = "NULL" →
      predicate.operator = "IS" ∨ predicate.operator = "IS NOT" := by
  intro builder
  have added : List.Forall₂ (Call.Adds engine options)
      ((builder.accepted calls).filter fun call => call.category = .filter)
      (builder.run calls).statement.predicates := by
    rw [predicates_run]
    exact builder.forall₂_predicates
      (fun column value operator additive _ made =>
        ⟨column, value, operator, additive, rfl, Predicate.compares_of_make made⟩) calls
  refine ⟨fun _ _ _ => TokenClass.eq_of_admits, added, fun predicate mem null => ?_⟩
  obtain ⟨place, inside, rfl⟩ := List.getElem_of_mem mem
  obtain ⟨_, _, _, _, _, compares⟩ := added.get (added.length_eq ▸ inside) inside
  exact compares.operator_of_null null

end SqlDraft
