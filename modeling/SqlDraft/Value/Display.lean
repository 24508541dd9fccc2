import SqlDraft.Text.Quoted
import SqlDraft.Value.Basic

/-!
# Display of values

`Value.inspect` is the form of a value inside a container or a message: a text is quoted, a
container shows its items.  `Value.display` is the form on its own: a text stands for itself.
`Value.content` is the text that a value contributes to an SQL literal.
-/

namespace SqlDraft
namespace Value

/-- Items with a comma and a space between them. -/
def commaSeparated (items : List String) : String := ", ".intercalate items

/-- A tuple of shown items; a comma marks the only item. -/
def showTuple : List String → String
  | [item] => "(" ++ item ++ ",)"
  | items => "(" ++ commaSeparated items ++ ")"

/-- A truth value. -/
def showFlag (flag : Bool) : String := if flag then "True" else "False"

/-- The display of a statement kind. -/
def showKind (kind : Kind) : String := "StatementKind." ++ kind.name

mutual

/-- The form of a value inside a container or a message. -/
def inspect : Value → String
  | null => "None"
  | bool flag => showFlag flag
  | int number => integerText number
  | float number => number.text
  | decimal number => "Decimal('" ++ number.text ++ "')"
  | text content => Text.quoted content
  | bytes content => Text.quotedBytes content
  | list items => "[" ++ commaSeparated (inspectItems items) ++ "]"
  | tuple items => showTuple (inspectItems items)
  | dict entries => "\x7b" ++ commaSeparated (inspectEntries entries) ++ "\x7d"
  | kind which => "<" ++ showKind which ++ ": '" ++ which.name ++ "'>"

/-- The forms of the items of a container. -/
def inspectItems : List Value → List String
  | [] => []
  | item :: items => inspect item :: inspectItems items

/-- The forms of the entries of a dictionary. -/
def inspectEntries : List (Value × Value) → List String
  | [] => []
  | (key, value) :: entries => (inspect key ++ ": " ++ inspect value) :: inspectEntries entries

end

/-- The form of a value on its own. -/
def display : Value → String
  | text content => content
  | decimal number => number.text
  | kind which => showKind which
  | value => value.inspect

/-- The text of a value in an SQL literal: null and false are empty, true is `1`, and any other
value is displayed. -/
def content : Value → String
  | null => ""
  | bool flag => if flag then "1" else ""
  | value => value.display

end Value
end SqlDraft
