import SqlDraft.Record.Field

/-!
# Conditions

A predicate compares a column with the text of a value, and a grouping condition is a boolean
expression.  Either carries the combinator that joins it to the condition before it.
-/

namespace SqlDraft

/-- The combinator given for a condition; a condition is joined by `AND` unless another is
given. -/
def Field.combinator (fields : Fields) : Checked Combinator :=
  Field.check Field.readCombinator "combinator" (fields.getD "combinator" (.text "AND"))

/-- One comparison of a column with a value. -/
structure Predicate where
  /-- The connective to the condition before. -/
  combinator : Combinator
  /-- The left-hand side. -/
  column : String
  /-- The comparison. -/
  operator : String
  /-- The right-hand side, a literal. -/
  value : String
deriving DecidableEq, Repr

namespace Predicate

/-- The fields of a predicate, in the order in which they are checked. -/
def declared : List String := ["combinator", "column", "operator", "value"]

/-- Check the values given for the fields of a predicate. -/
def check (combinator : Checked Combinator) (column : Option Value) (operator : Value)
    (value : Option Value) : Checked Predicate :=
  (((Checked.apply (.ok mk) combinator).apply
    (Field.require Field.readText "column" column)).apply
    (Field.check Field.readText "operator" operator)).apply
    (Field.require Field.readText "value" value)

/-- A predicate made from the fields given. -/
def ofFields (fields : Fields) : Except Failure Predicate :=
  let checked :=
    check (Field.combinator fields) (fields.get? "column")
      (fields.getD "operator" (.text "=")) (fields.get? "value")
  (checked.except (fields.undeclared declared)).outcome .predicate

/-- The text of a predicate. -/
def render (predicate : Predicate) : String :=
  predicate.column ++ " " ++ predicate.operator ++ " " ++ predicate.value

end Predicate

/-- One condition on groups. -/
structure Having where
  /-- The connective to the condition before. -/
  combinator : Combinator
  /-- A boolean expression. -/
  expression : String
deriving DecidableEq, Repr

namespace Having

/-- The fields of a grouping condition, in the order in which they are checked. -/
def declared : List String := ["combinator", "expression"]

/-- Check the values given for the fields of a grouping condition. -/
def check (combinator : Checked Combinator) (expression : Option Value) : Checked Having :=
  (Checked.apply (.ok mk) combinator).apply
    (Field.require Field.readText "expression" expression)

/-- A grouping condition made from the fields given. -/
def ofFields (fields : Fields) : Except Failure Having :=
  let checked := check (Field.combinator fields) (fields.get? "expression")
  (checked.except (fields.undeclared declared)).outcome .having

/-- The text of a grouping condition. -/
def render (having : Having) : String := having.expression

end Having

/-- A condition as it stands in a clause: its connective and its text. -/
structure Condition where
  /-- The connective to the condition before. -/
  combinator : Combinator
  /-- The text of the condition. -/
  text : String
deriving DecidableEq, Repr

/-- A condition behind its combinator. -/
def Condition.connected (condition : Condition) : String :=
  condition.combinator.keyword ++ " " ++ condition.text

/-- A predicate as a condition. -/
def Predicate.condition (predicate : Predicate) : Condition :=
  ⟨predicate.combinator, predicate.render⟩

/-- A grouping condition as a condition. -/
def Having.condition (having : Having) : Condition := ⟨having.combinator, having.render⟩

end SqlDraft
