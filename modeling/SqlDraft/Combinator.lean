/-!
# Combinators

A combinator joins a condition to the one before it.
-/

namespace SqlDraft

/-- Logical connective between two conditions. -/
inductive Combinator
  | and
  | or
deriving DecidableEq, Repr

namespace Combinator

/-- Both combinators. -/
def all : List Combinator := [and, or]

/-- The keyword of a combinator. -/
def keyword : Combinator → String
  | and => "AND"
  | or => "OR"

/-- The combinator with a given keyword. -/
def ofKeyword? (keyword : String) : Option Combinator :=
  all.find? fun combinator => combinator.keyword == keyword

@[simp]
theorem ofKeyword?_keyword (combinator : Combinator) :
    ofKeyword? combinator.keyword = some combinator := by
  cases combinator <;> decide

end Combinator
end SqlDraft
