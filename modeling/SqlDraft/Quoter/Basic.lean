import SqlDraft.Failure

/-!
# Quoters

A quoter turns the text of a value into an SQL literal.  It sees nothing of the value but its
text.  A quoter supplied from outside may fail, and may answer with something that is not a text.
-/

namespace SqlDraft

/-- A named way to quote texts. -/
structure Quoter where
  /-- The name of the quoting rules. -/
  dialect : String
  /-- The literal for a text. -/
  quoteText : String → Except Failure Value

namespace Quoter

/-- The literal for a value. -/
def quote (quoter : Quoter) (value : Value) : Except Failure Value :=
  quoter.quoteText value.content

/-- A quoter that turns every text into a text. -/
def ofFunction (dialect : String) (function : String → String) : Quoter where
  dialect := dialect
  quoteText := fun content => .ok (.text (function content))

/-- The name of a function that is used as a quoter. -/
def callableName : String := "callable"

/-- A value used as a function: it cannot be called, which shows when a text has to be quoted. -/
def ofValue (value : Value) : Quoter where
  dialect := callableName
  quoteText := fun _ => .error (.notCallable value.typeName)

@[simp]
theorem quote_ofFunction (dialect : String) (function : String → String) (value : Value) :
    (ofFunction dialect function).quote value = .ok (.text (function value.content)) := rfl

end Quoter
end SqlDraft
