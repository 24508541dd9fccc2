import SqlDraft.Condition.Basic
import SqlDraft.Quoter.Basic

/-!
# Comparisons

A comparison puts the text of a value behind an operator.  Null is compared by `IS` or `IS NOT`,
truth values and numbers stand unquoted, and everything else goes through the quoter.
-/

namespace SqlDraft

namespace Value

/-- The value may stand unquoted as a number: a finite number that is not a truth value, or a text
that spells one. -/
def isNumeric : Value → Bool
  | int _ => true
  | float number => number.isFinite
  | decimal number => number.isFinite
  | text content => Text.isNumeric content
  | _ => false

end Value

/-- The operator and the right-hand side of a condition.  Both are values because nothing has
checked them yet. -/
structure Comparison where
  /-- The operator. -/
  operator : Value
  /-- The text of the value. -/
  value : Value
deriving Repr

namespace Comparison

/-- The operator that asks for equality. -/
def equality : String := "="

/-- The operator that asks for inequality. -/
def inequality : String := "<>"

/-- The operator that compares with null in place of the given one. -/
def nullOperator (operator : Value) : Value :=
  .text (if operator.asText? = some equality then "IS" else "IS NOT")

/-- Compare with a value under the given operator. -/
def make (quoter : Quoter) (value operator : Value) : Except Failure Comparison :=
  match value with
  | .null => .ok ⟨nullOperator operator, .text "NULL"⟩
  | .bool true => .ok ⟨operator, .text "TRUE"⟩
  | .bool false => .ok ⟨operator, .text "FALSE"⟩
  | value =>
      if value.isNumeric then
        .ok ⟨operator, .text (Text.trim value.display)⟩
      else
        (quoter.quote value).map fun quoted => ⟨operator, quoted⟩

end Comparison

/-- A flag that counts as true asks for `AND`. -/
def Combinator.ofFlag (flag : Value) : Combinator := if flag.isTruthy then .and else .or

/-- The predicate that compares a column with a value. -/
def Predicate.make (quoter : Quoter) (column value operator additive : Value) :
    Except Failure Predicate := do
  let comparison ← Comparison.make quoter value operator
  (check (.ok (.ofFlag additive)) (some column) comparison.operator (some comparison.value)).outcome
    .predicate

end SqlDraft
