import SqlDraft.Combinator
import SqlDraft.Failure

/-!
# Fields of records

A record is made from named fields.  Checking does not stop at the first fault: the declared
fields report theirs in the order of declaration, and then every field that is not declared
reports one in the order given.

A text field takes a text, or a byte sequence that is valid UTF-8.
-/

namespace SqlDraft

/-- The fields given for a record. -/
abbrev Fields := List (String × Value)

/-- The outcome of checking fields: a value, or all faults in order. -/
abbrev Checked (α : Type) := Except (List Fault) α

namespace Checked

/-- Apply a checked function to a checked argument; the faults of both are reported. -/
def apply {α β : Type} (function : Checked (α → β)) (argument : Checked α) : Checked β :=
  match function, argument with
  | .ok function, .ok argument => .ok (function argument)
  | .ok _, .error faults => .error faults
  | .error faults, .ok _ => .error faults
  | .error faults, .error further => .error (faults ++ further)

/-- A checked value, refused with the given faults if there are any. -/
def except {α : Type} (checked : Checked α) (faults : List Fault) : Checked α :=
  match checked, faults with
  | .ok value, [] => .ok value
  | .ok _, faults => .error faults
  | .error found, faults => .error (found ++ faults)

/-- A checked record as the outcome of a call. -/
def outcome {α : Type} (record : RecordType) (checked : Checked α) : Except Failure α :=
  checked.mapError (Failure.invalid record)

end Checked

namespace Fields

/-- The value given for a field. -/
def get? (fields : Fields) (name : String) : Option Value := fields.lookup name

/-- The value given for a field, or its default. -/
def getD (fields : Fields) (name : String) (default : Value) : Value :=
  (fields.get? name).getD default

/-- One fault for every field that is not declared. -/
def undeclared (declared : List String) (fields : Fields) : List Fault :=
  (fields.filter fun field => !declared.contains field.1).map fun field =>
    ⟨field.1, .unknownField⟩

end Fields

namespace Field

/-- The text that a byte sequence spells in UTF-8. -/
def decode? (content : List UInt8) : Option String := String.fromUTF8? ⟨content.toArray⟩

/-- The text that a value gives for a field. -/
def readText : Value → Except FaultCause String
  | .bytes content => (decode? content).elim (.error .notUnicode) .ok
  | value => value.asText?.elim (.error .notText) .ok

/-- The text that a value gives for a field, or none for null. -/
def readOptionalText : Value → Except FaultCause (Option String)
  | .null => .ok none
  | value => (readText value).map some

/-- The text that a value gives for a setting, which must not be blank. -/
def readSetting (value : Value) : Except FaultCause String :=
  match readText value with
  | .ok content => if Text.allBlank content then .error .blank else .ok content
  | .error cause => .error cause

/-- The combinator whose keyword a value gives. -/
def readCombinator (value : Value) : Except FaultCause Combinator :=
  match readText value with
  | .ok keyword => (Combinator.ofKeyword? keyword).elim (.error .notCombinator) .ok
  | .error _ => .error .notCombinator

/-- Read the value of a field, reporting a fault under the name of the field. -/
def check {α : Type} (read : Value → Except FaultCause α) (name : String) (value : Value) :
    Checked α :=
  (read value).mapError fun cause => [⟨name, cause⟩]

/-- Read the value of a field that has to be given. -/
def require {α : Type} (read : Value → Except FaultCause α) (name : String) :
    Option Value → Checked α
  | none => .error [⟨name, .missing⟩]
  | some value => check read name value

end Field

namespace RecordType

/-- Keep a note on a finished record under a name that starts with a low line.  Two names are
reserved for the class of the record and for the table of its fields. -/
def keepNote (name : String) (value : Value) : Except Failure Unit :=
  match name, value with
  | "__class__", value => .error (.notClass value.typeName)
  | "__dict__", .dict _ => .ok ()
  | "__dict__", value => .error (.notFieldTable value.typeName)
  | _, _ => .ok ()

/-- Set a name of a finished record to a value.  Records are frozen; a name that starts with a low
line is no field, and a note under it changes no field. -/
def assign (record : RecordType) (name : String) (value : Value) : Except Failure Unit :=
  if name.startsWith "_" then keepNote name value else .error (.invalid record [⟨name, .frozen⟩])

end RecordType
end SqlDraft
