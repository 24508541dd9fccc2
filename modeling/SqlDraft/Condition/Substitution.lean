import SqlDraft.Condition.Comparison
import SqlDraft.Record.Options
import SqlDraft.Text.Replace

/-!
# Substitution in grouping conditions

A grouping condition holds a placeholder wherever its value belongs.  All placeholders of an
expression are replaced by the quoted value in one pass, which does not look at the value again.
-/

namespace SqlDraft
namespace Having

/-- Put the quoted value in the place of every placeholder. -/
def substitute (quoter : Quoter) (placeholder expression : String) (value : Value) :
    Except Failure String := do
  let quoted ← quoter.quote value
  match quoted.asText? with
  | some literal => .ok (Text.replaceAll expression placeholder literal)
  | none => .error (.replacementNotText quoted.typeName)

/-- One grouping condition for every expression.  Values pair with expressions by position, and
what is left over on either side is dropped; without values the expressions stand as they are. -/
def make (quoter : Quoter) (placeholder : String) (expression : Value)
    (values : Option (List Value)) (additive : Value) : Except Failure (List Having) :=
  let combinator := Combinator.ofFlag additive
  match values with
  | none => .ok (expression.asList.map fun item => ⟨combinator, item.display⟩)
  | some values =>
      (expression.asList.zip values).mapM fun (item, value) => do
        let expression ← substitute quoter placeholder item.display value
        .ok ⟨combinator, expression⟩

end Having
end SqlDraft
