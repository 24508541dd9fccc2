import SqlDraft.Condition.Basic
import SqlDraft.Record.Join
import SqlDraft.Record.OrderTerm

/-!
# Records of any type

Records of all types are made from fields.  Conditions and order terms have a text of their own;
only conditions have a combinator.
-/

namespace SqlDraft

/-- A record of some type. -/
inductive Record
  | options (content : Options)
  | join (content : Join)
  | predicate (content : Predicate)
  | having (content : Having)
  | orderTerm (content : OrderTerm)
deriving DecidableEq, Repr

namespace Record

/-- The type of a record. -/
def type : Record → RecordType
  | options _ => .options
  | join _ => .join
  | predicate _ => .predicate
  | having _ => .having
  | orderTerm _ => .orderTerm

/-- A record of a given type made from the fields given. -/
def ofFields (type : RecordType) (fields : Fields) : Except Failure Record :=
  match type with
  | .options => (Options.ofFields fields).map options
  | .join => (Join.ofFields fields).map join
  | .predicate => (Predicate.ofFields fields).map predicate
  | .having => (Having.ofFields fields).map having
  | .orderTerm => (OrderTerm.ofFields fields).map orderTerm

/-- The text that a record has of its own. -/
def text : Record → Except Failure String
  | predicate content => .ok content.render
  | having content => .ok content.render
  | orderTerm content => .ok content.render
  | record => .error (.lacks record.type.title "render")

/-- The combinator of a record. -/
def combinator : Record → Except Failure Combinator
  | predicate content => .ok content.combinator
  | having content => .ok content.combinator
  | record => .error (.lacks record.type.title "combinator")

/-- A record as a condition. -/
def condition (record : Record) : Except Failure Condition := do
  let combinator ← record.combinator
  let text ← record.text
  .ok ⟨combinator, text⟩

end Record
end SqlDraft
