import SqlDraft.Kind
import SqlDraft.Number.Binary64
import SqlDraft.Number.Decimal

/-!
# Values

A value is what a caller supplies for a column, a limit, a list of names or a setting.  Containers
nest.  A dictionary is the list of its entries in insertion order.
-/

namespace SqlDraft

/-- A dynamic value. -/
inductive Value
  | null
  | bool (flag : Bool)
  /-- An integer of any size. -/
  | int (number : Int)
  | float (number : Binary64)
  | decimal (number : Decimal)
  | text (content : String)
  | bytes (content : List UInt8)
  | list (items : List Value)
  | tuple (items : List Value)
  | dict (entries : List (Value × Value))
  /-- A statement kind, which counts as a text as well. -/
  | kind (which : Kind)
deriving Inhabited, Repr

namespace Value

/-- The name of a value's type, as messages give it. -/
def typeName : Value → String
  | null => "NoneType"
  | bool _ => "bool"
  | int _ => "int"
  | float _ => "float"
  | decimal _ => "decimal.Decimal"
  | text _ => "str"
  | bytes _ => "bytes"
  | list _ => "list"
  | tuple _ => "tuple"
  | dict _ => "dict"
  | kind _ => "StatementKind"

/-- A value counts as true unless it is null, false, a zero or empty.  Not a number counts as
true. -/
def isTruthy : Value → Bool
  | null => false
  | bool flag => flag
  | int number => number != 0
  | float number => !number.isZero
  | decimal number => !number.isZero
  | text content => !content.isEmpty
  | bytes content => !content.isEmpty
  | list items => !items.isEmpty
  | tuple items => !items.isEmpty
  | dict entries => !entries.isEmpty
  | kind _ => true

/-- The text that a text or a statement kind holds. -/
def asText? : Value → Option String
  | text content => some content
  | kind which => some which.name
  | _ => none

/-- The texts of the single characters of a text. -/
def characters (content : String) : List Value :=
  content.toList.map fun c => text (String.singleton c)

/-- What a value runs through when it is iterated: the characters of a text, the numbers of a byte
sequence, the items of a list or tuple, the keys of a dictionary. -/
def items? : Value → Option (List Value)
  | text content => some (characters content)
  | bytes content => some (content.map fun byte => int byte.toNat)
  | list items => some items
  | tuple items => some items
  | dict entries => some (entries.map Prod.fst)
  | kind which => some (characters which.name)
  | _ => none

/-- The items of a list or tuple; any other value is its own only item. -/
def asList : Value → List Value
  | list items => items
  | tuple items => items
  | value => [value]

/-- A value that counts as false is replaced. -/
def orElse (value replacement : Value) : Value := if value.isTruthy then value else replacement

end Value
end SqlDraft
