import SqlDraft.Value.Display

/-!
# Failures

A failure is the cause for which a call, a record, a quoter or a rendering is refused.  Every
failure has one message.
-/

namespace SqlDraft

/-- A call that does not fit the statement being drafted. -/
inductive StatementError
  /-- A failure with a code and details of its own. -/
  | general (message code : String) (details : List (Value × Value))
  /-- The kind of a statement is set a second time. -/
  | alreadySet (current requested : String)
  /-- An operation does not apply to the kind of the statement, which may not be set. -/
  | notAllowed (operation : String) (kind : Option String)
deriving Repr

namespace StatementError

/-- A text, or null if there is none. -/
def optionalText : Option String → Value
  | none => .null
  | some content => .text content

/-- The description of a failure. -/
def message : StatementError → String
  | general message _ _ => message
  | alreadySet current requested =>
      "Statement kind is already set to " ++ current ++ "; cannot change it to " ++ requested ++ "."
  | notAllowed operation kind =>
      "Method '" ++ operation ++ "' is not supported for mode " ++ (optionalText kind).display ++ "."

/-- The code of a failure, for programs. -/
def code : StatementError → String
  | general _ code _ => code
  | alreadySet .. => "ALREADY_SET"
  | notAllowed .. => "NOT_ALLOWED"

/-- What is known about the offending call. -/
def details : StatementError → List (Value × Value)
  | general _ _ details => details
  | alreadySet current requested =>
      [(.text "current", .text current), (.text "requested", .text requested)]
  | notAllowed operation kind =>
      [(.text "operation", .text operation), (.text "kind", optionalText kind)]

end StatementError

/-- A quoter that cannot be found or made. -/
inductive QuoterError
  /-- A failure that concerns a name or none. -/
  | general (message : String) (name : Value)
  /-- No quoter is registered under a name. -/
  | unknown (name : Value) (known : List String)
  /-- What is to be registered under a name is not a kind of quoter. -/
  | notQuoter (shown : String) (name : Value)
  /-- An object of a given type leads to no dialect. -/
  | noDialect (typeName : String)
deriving Repr

namespace QuoterError

/-- The description of a failure. -/
def message : QuoterError → String
  | general message _ => message
  | unknown name known =>
      "No quoter named '" ++ name.display ++ "' (known: " ++ Value.commaSeparated known ++ ")."
  | notQuoter shown _ => shown ++ " is not a Quoter subclass."
  | noDialect typeName => "Cannot resolve a SQLAlchemy dialect from " ++ typeName ++ "."

/-- The name that a failure concerns, or null. -/
def name : QuoterError → Value
  | general _ name => name
  | unknown name _ => name
  | notQuoter _ name => name
  | noDialect _ => .text "sqlalchemy"

end QuoterError

/-- Why a field of a record is refused. -/
inductive FaultCause
  | missing
  | notText
  /-- The field is a byte sequence that spells no text. -/
  | notUnicode
  /-- The field holds no character that is not blank. -/
  | blank
  /-- The field is not the keyword of a combinator. -/
  | notCombinator
  | unknownField
  | frozen
deriving DecidableEq, Repr

namespace FaultCause

/-- The code of a cause, for programs. -/
def code : FaultCause → String
  | missing => "missing"
  | notText => "string_type"
  | notUnicode => "string_unicode"
  | blank => "value_error"
  | notCombinator => "enum"
  | unknownField => "extra_forbidden"
  | frozen => "frozen_instance"

/-- The description of a cause. -/
def message : FaultCause → String
  | missing => "Field required"
  | notText => "Input should be a valid string"
  | notUnicode => "Input should be a valid string, unable to parse raw data as a unicode string"
  | blank => "Value error, must not be blank"
  | notCombinator => "Input should be 'AND' or 'OR'"
  | unknownField => "Extra inputs are not permitted"
  | frozen => "Instance is frozen"

end FaultCause

/-- A refused field of a record. -/
structure Fault where
  /-- The name of the field. -/
  field : String
  /-- The reason. -/
  cause : FaultCause
deriving DecidableEq, Repr

/-- The records whose fields are checked. -/
inductive RecordType
  | options
  | join
  | predicate
  | having
  | orderTerm
deriving DecidableEq, Repr

/-- The title of a record in a report of its faults. -/
def RecordType.title : RecordType → String
  | options => "BuilderOptions"
  | join => "JoinFragment"
  | predicate => "Predicate"
  | having => "HavingPredicate"
  | orderTerm => "OrderTerm"

/-- Why something is refused. -/
inductive Failure
  | general (message : String)
  /-- A call does not fit the statement. -/
  | statement (error : StatementError)
  /-- A quoter cannot be found or made. -/
  | quoter (error : QuoterError)
  /-- Fields of a record are refused. -/
  | invalid (record : RecordType) (faults : List Fault)
  /-- A value names no statement kind. -/
  | unknownKind (value : Value)
  /-- Dialects are not installed. -/
  | dialectsMissing
  /-- The registered kind of quoter cannot be made without arguments, for the given reason. -/
  | argumentsMissing (reason : String)
  /-- A value of a given type cannot be iterated. -/
  | notIterable (typeName : String)
  /-- What is to be joined cannot be iterated. -/
  | notJoinable
  /-- An item that is to be joined is not a text. -/
  | itemNotText (position : Nat) (typeName : String)
  /-- A value of a given type does not have what is asked of it. -/
  | lacks (typeName member : String)
  /-- A value of a given type is no class. -/
  | notClass (typeName : String)
  /-- A value of a given type is no table of fields. -/
  | notFieldTable (typeName : String)
  /-- The replacement of a placeholder is not a text. -/
  | replacementNotText (typeName : String)
  /-- A value of a given type cannot be called. -/
  | notCallable (typeName : String)
  /-- A value of a given type cannot be a key. -/
  | notKey (typeName : String)
  /-- A signaling decimal cannot be a key. -/
  | signalingKey
  /-- An entry of a dictionary is not a sequence. -/
  | entryNotSequence (position : Nat)
  /-- An entry of a dictionary does not consist of two items. -/
  | entryNotPair (position length : Nat)
deriving Repr

namespace Failure

/-- The description of a failure.  Refused fields are reported one by one instead. -/
def message : Failure → String
  | general message => message
  | statement error => error.message
  | quoter error => error.message
  | invalid record _ => record.title
  | unknownKind value => value.inspect ++ " is not a valid StatementKind"
  | dialectsMissing =>
      "SQLAlchemy is required for SQLAlchemyQuoter. " ++
        "Install it with: pip install \"fluentql[sqlalchemy]\""
  | argumentsMissing reason => reason
  | notIterable typeName => "'" ++ typeName ++ "' object is not iterable"
  | notJoinable => "can only join an iterable"
  | itemNotText position typeName =>
      "sequence item " ++ integerText position ++ ": expected str instance, " ++ typeName ++ " found"
  | lacks typeName member => "'" ++ typeName ++ "' object has no attribute '" ++ member ++ "'"
  | notClass typeName => "__class__ must be set to a class, not '" ++ typeName ++ "' object"
  | notFieldTable typeName => "__dict__ must be set to a dictionary, not a '" ++ typeName ++ "'"
  | replacementNotText typeName => "replace() argument 2 must be str, not " ++ typeName
  | notCallable typeName => "'" ++ typeName ++ "' object is not callable"
  | notKey typeName => "unhashable type: '" ++ typeName ++ "'"
  | signalingKey => "Cannot hash a signaling NaN value"
  | entryNotSequence position =>
      "cannot convert dictionary update sequence element #" ++ integerText position ++
        " to a sequence"
  | entryNotPair position length =>
      "dictionary update sequence element #" ++ integerText position ++ " has length " ++
        integerText length ++ "; 2 is required"

end Failure
end SqlDraft
