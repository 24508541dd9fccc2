import SqlDraft.Record.Field
import SqlDraft.Text.Blank

/-!
# Options

The options of a builder are four texts, none of them blank.
-/

namespace SqlDraft

/-- Settings that a builder keeps for its lifetime. -/
structure Options where
  /-- The registered quoter in use when none is given. -/
  quoter : String
  /-- The marker that a value replaces in a grouping condition. -/
  placeholder : String
  /-- The comparison in use when none is given. -/
  defaultOperator : String
  /-- The type of join in use when none is given. -/
  defaultJoinType : String
deriving DecidableEq, Repr

namespace Options

/-- The options in use when nothing is set. -/
def default : Options where
  quoter := "ansi"
  placeholder := "?"
  defaultOperator := "="
  defaultJoinType := "INNER"

/-- The fields of options, in the order in which they are checked. -/
def declared : List String := ["quoter", "placeholder", "default_operator", "default_join_type"]

/-- Options made from the fields given; every other field keeps its default. -/
def ofFields (fields : Fields) : Except Failure Options :=
  let setting (name default : String) : Checked String :=
    Field.check Field.readSetting name (fields.getD name (.text default))
  let checked : Checked Options :=
    (((Checked.apply (.ok mk) (setting "quoter" default.quoter)).apply
      (setting "placeholder" default.placeholder)).apply
      (setting "default_operator" default.defaultOperator)).apply
      (setting "default_join_type" default.defaultJoinType)
  (checked.except (fields.undeclared declared)).outcome .options

/-- A value, or the text of a setting in the place of null. -/
def orDefault (setting : String) : Value → Value
  | .null => .text setting
  | value => value

end Options
end SqlDraft
