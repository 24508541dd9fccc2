import SqlDraft.Proofs.Template

/-!
# Operands of conditions

What a condition on rows puts behind its operator is a fixed text for null, truth values and
numbers, and otherwise a literal for the text of the value.  Whether a condition can be made does
not depend on the quoter, if the quoter never fails, and what the quoter answers is copied as it is.
-/

namespace SqlDraft

namespace Value

/-- The value stands as a literal in a condition on rows. -/
def isQuoted : Value → Bool
  | null | bool _ => false
  | value => !value.isNumeric

/-- The text of a value that needs no quoter. -/
def plainText : Value → String
  | null => "NULL"
  | bool flag => if flag then "TRUE" else "FALSE"
  | value => Text.trim value.display

/-- The right-hand side of a condition on rows. -/
def operand (value : Value) : Piece :=
  if value.isQuoted then .hole value.content else .fixed value.plainText

theorem label?_operand (value : Value) :
    value.operand.label? = if value.isQuoted then some value.content else none := by
  unfold operand
  split <;> rfl

theorem fill_operand (quote : String → String) (value : Value) :
    value.operand.fill quote = if value.isQuoted then quote value.content else value.plainText := by
  unfold operand
  split <;> rfl

end Value

namespace Comparison

/-- The operator that is written for a value in the place of the given one. -/
def operatorFor : Value → Value → Value
  | .null, operator => nullOperator operator
  | _, operator => operator

theorem operatorFor_of_ne {value : Value} (notNull : value ≠ .null) (operator : Value) :
    operatorFor value operator = operator := by
  cases value <;> first | rfl | exact absurd rfl notNull

/-- A quoter is asked for a literal for the text of the value, or not at all. -/
theorem make_eq (quoter : Quoter) (value operator : Value) :
    make quoter value operator =
      if value.isQuoted then
        (quoter.quote value).map fun quoted => ⟨operatorFor value operator, quoted⟩
      else
        .ok ⟨operatorFor value operator, .text value.plainText⟩ := by
  cases value with
  | null => rfl
  | bool flag => cases flag <;> rfl
  | _ =>
      simp only [make, Value.isQuoted, operatorFor, Value.plainText]
      split <;> simp_all

end Comparison

namespace Predicate

/-- The checked column and operator of a predicate. -/
def checkFrame (column operator : Value) : Except Failure (String × String) :=
  ((Checked.apply (.ok Prod.mk) (Field.check Field.readText "column" column)).apply
    (Field.check Field.readText "operator" operator)).outcome .predicate

theorem readText_of_checkFrame {column operator : Value} {frame : String × String}
    (checked : checkFrame column operator = .ok frame) :
    Field.readText column = .ok frame.1 ∧ Field.readText operator = .ok frame.2 := by
  unfold checkFrame Field.check at checked
  cases left : Field.readText column <;> cases right : Field.readText operator <;>
    rw [left, right] at checked <;> cases checked
  exact ⟨rfl, rfl⟩

/-- Whether a predicate can be made does not depend on the text of its value. -/
theorem outcome_check_text (combinator : Combinator) (column operator : Value) (text : String) :
    (check (.ok combinator) (some column) operator (some (.text text))).outcome .predicate =
      (checkFrame column operator).map fun frame => ⟨combinator, frame.1, frame.2, text⟩ := by
  change ((((Checked.apply (.ok mk) (.ok combinator)).apply
      (Field.check Field.readText "column" column)).apply
      (Field.check Field.readText "operator" operator)).apply (.ok text)).outcome .predicate = _
  unfold checkFrame
  cases Field.check Field.readText "column" column <;>
    cases Field.check Field.readText "operator" operator <;> rfl

variable {quoter : Quoter} {quote : String → String}

theorem make_eq (computes : quoter.Computes quote) (column value operator additive : Value) :
    make quoter column value operator additive =
      (checkFrame column (Comparison.operatorFor value operator)).map fun frame =>
        ⟨.ofFlag additive, frame.1, frame.2, value.operand.fill quote⟩ := by
  have comparison : Comparison.make quoter value operator =
      .ok ⟨Comparison.operatorFor value operator, .text (value.operand.fill quote)⟩ := by
    rw [Comparison.make_eq, Value.fill_operand]
    split
    · rw [computes.quote_eq]
      rfl
    · rfl
  unfold make
  rw [comparison]
  exact outcome_check_text _ _ _ _

theorem exists_frame_of_make (computes : quoter.Computes quote)
    {column value operator additive : Value} {predicate : Predicate}
    (made : make quoter column value operator additive = .ok predicate) :
    ∃ frame, checkFrame column (Comparison.operatorFor value operator) = .ok frame ∧
      predicate = ⟨.ofFlag additive, frame.1, frame.2, value.operand.fill quote⟩ := by
  rw [make_eq computes] at made
  cases checked : checkFrame column (Comparison.operatorFor value operator) with
  | error failure =>
      rw [checked] at made
      cases made
  | ok frame =>
      rw [checked] at made
      exact ⟨frame, rfl, (Except.ok.inj made).symm⟩

theorem make_eq_of_not_isQuoted (quoter other : Quoter) (column operator additive : Value)
    {value : Value} (plain : value.isQuoted = false) :
    make quoter column value operator additive = make other column value operator additive := by
  unfold make
  rw [Comparison.make_eq, Comparison.make_eq]
  simp only [plain, Bool.false_eq_true, if_false]

end Predicate

namespace Having

/-- The texts of the expressions that a call gives, each with the value that belongs to it. -/
def sources (expression : Value) : Option (List Value) → List (String × Option Value)
  | none => expression.asList.map fun item => (item.display, none)
  | some values =>
      (expression.asList.zip values).map fun pair => (pair.1.display, some pair.2)

/-- The text of an expression with holes for the placeholders of its value. -/
def template (placeholder : String) : String × Option Value → Template
  | (expression, none) => .text expression
  | (expression, some value) =>
      .separated [.hole value.content] ((Text.segments expression placeholder).map .text)

theorem fill_template_some (quote : String → String) (placeholder expression : String)
    (value : Value) :
    (template placeholder (expression, some value)).fill quote =
      Text.replaceAll expression placeholder (quote value.content) := by
  rw [Text.replaceAll_eq_intercalate]
  simp [template, Piece.fill, Function.comp_def]

variable {quoter : Quoter} {quote : String → String}

theorem make_eq (computes : quoter.Computes quote) (placeholder : String) (expression : Value)
    (values : Option (List Value)) (additive : Value) :
    make quoter placeholder expression values additive =
      .ok ((sources expression values).map fun source =>
        ⟨.ofFlag additive, (template placeholder source).fill quote⟩) := by
  cases values with
  | none => simp [make, sources, template, Function.comp_def]
  | some values =>
      have each : ∀ pair : Value × Value,
          (do
            let expression ← substitute quoter placeholder pair.1.display pair.2
            .ok (⟨.ofFlag additive, expression⟩ : Having) : Except Failure Having) =
            .ok ⟨.ofFlag additive,
              (template placeholder (pair.1.display, some pair.2)).fill quote⟩ := by
        intro pair
        rw [fill_template_some]
        simp [substitute, computes.quote_eq, bind, Except.bind, Value.asText?]
      simp only [make, each, mapM_ok, sources, List.map_map, Function.comp_def]

end Having

end SqlDraft
