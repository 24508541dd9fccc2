import SqlDraft.Journal.Level
import SqlDraft.Text.Replace
import SqlDraft.Text.Word

/-!
# Layouts

A layout is a text with fields, each of which is a percent sign, a name in parentheses, optional
flags, width and precision, and a letter.  A layout without any field is refused.  `Layout.render`
fills the fields of an entry in one pass and does not look at what it has filled in.
-/

namespace SqlDraft
namespace Journal

/-- An entry of the journal. -/
structure Entry where
  /-- The name of the logger. -/
  logger : String
  /-- The level. -/
  level : Int
  /-- The message. -/
  message : String
deriving DecidableEq, Repr

/-- How the console lays out an entry. -/
structure Layout where
  /-- The text with fields. -/
  format : String
  /-- The form of dates. -/
  dateFormat : String
deriving DecidableEq, Repr

namespace Layout

/-- A flag of a field. -/
def isFlag (c : Char) : Bool := c == '#' || c == '0' || c == '+' || c == ' ' || c == '-'

/-- The letters that end a field. -/
def conversions : List Char := "diouxefgcrsaDIOUXEFGCRSA%\u0130\u0131\u017F".toList

/-- Drop a star or a run of digits. -/
def dropCount : List Char → List Char
  | '*' :: rest => rest
  | rest => rest.dropWhile Text.isDecimalDigit

/-- Drop a point with a star or digits behind it. -/
def dropPrecision : List Char → List Char
  | '.' :: rest =>
      let dropped := dropCount rest
      if dropped.length < rest.length then dropped else '.' :: rest
  | rest => rest

/-- What follows the name of a field ends it. -/
def endsField (rest : List Char) : Bool :=
  match dropPrecision (dropCount (rest.dropWhile isFlag)) with
  | c :: _ => conversions.contains c
  | [] => false

/-- A field stands at the start of a text. -/
def startsWithField : List Char → Bool
  | '%' :: '(' :: rest =>
      !(rest.takeWhile Text.isWord).isEmpty &&
        match rest.dropWhile Text.isWord with
        | ')' :: rest => endsField rest
        | _ => false
  | _ => false

/-- A field stands somewhere in a text. -/
def hasField : List Char → Bool
  | [] => false
  | c :: rest => startsWithField (c :: rest) || hasField rest

/-- The layout of a message alone, which the empty text asks for. -/
def messageOnly : String := "%(message)s"

/-- The text in use when no layout is asked for. -/
def defaultFormat : String := "%(asctime)s - %(name)s - %(levelname)s - %(message)s"

/-- The form of dates in use. -/
def defaultDateFormat : String := "%Y-%m-%d %H:%M:%S"

/-- The layout with a given text. -/
def ofFormat (format : String) : Except Refusal Layout :=
  let format := if format.isEmpty then messageOnly else format
  if hasField format.toList then .ok ⟨format, defaultDateFormat⟩ else .error (.noField format)

/-- The fields of an entry, with the text that fills them.  A doubled percent sign stands for one. -/
def fieldTexts (entry : Entry) : List (List Char × List Char) :=
  [("%(levelname)s", levelName entry.level), ("%(levelno)d", integerText entry.level),
    ("%(levelno)s", integerText entry.level), ("%(name)s", entry.logger),
    ("%(message)s", entry.message), ("%%", "%")].map
      fun field => (field.1.toList, field.2.toList)

/-- The text of an entry. -/
def render (layout : Layout) (entry : Entry) : String :=
  String.ofList (Text.fillFrom (fieldTexts entry) 0 layout.format.toList)

end Layout
end Journal
end SqlDraft
