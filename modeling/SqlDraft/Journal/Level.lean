import SqlDraft.Number.Digits
import SqlDraft.Text.Quoted
import SqlDraft.Text.Uppercase

/-!
# Levels

A level says how severe an entry of the journal is.  Levels are numbers, six of them with names;
zero is no level.  A level is requested by its name in any case of letters.
-/

namespace SqlDraft
namespace Journal

/-- Why the journal refuses a request. -/
inductive Refusal
  /-- Nothing has the requested name. -/
  | unknownName (name : String)
  /-- The requested name is that of a text. -/
  | notLevelName (content : String)
  /-- The requested name is that of something else, which is shown. -/
  | notLevel (shown : String)
  /-- A layout has no field. -/
  | noField (layout : String)
deriving DecidableEq, Repr

/-- The description of a refusal. -/
def Refusal.message : Refusal → String
  | unknownName name => "module 'logging' has no attribute '" ++ name ++ "'"
  | notLevelName content => "Unknown level: " ++ Text.quoted content
  | notLevel shown => "Level not an integer or a valid string: " ++ shown
  | noField layout => "Invalid format '" ++ layout ++ "' for '%' style"

/-- The names by which levels are requested. -/
def levels : List (String × Int) :=
  [("DEBUG", 10), ("INFO", 20), ("WARNING", 30), ("WARN", 30), ("ERROR", 40), ("CRITICAL", 50),
    ("FATAL", 50), ("NOTSET", 0)]

/-- The layout that has a name of its own. -/
def namedLayout : String := "%(levelname)s:%(name)s:%(message)s"

/-- The table of layout styles, as it is shown. -/
def styleTable : String :=
  "\x7b'%': (<class 'logging.PercentStyle'>, '%(levelname)s:%(name)s:%(message)s'), " ++
    "'\x7b': (<class 'logging.StrFormatStyle'>, " ++
    "'\x7blevelname\x7d:\x7bname\x7d:\x7bmessage\x7d'), " ++
    "'$': (<class 'logging.StringTemplateStyle'>, " ++
    "'$\x7blevelname\x7d:$\x7bname\x7d:$\x7bmessage\x7d')\x7d"

/-- What else could be meant by a name that is not the name of a level. -/
def refusalOf (name : String) : Refusal :=
  if name = "BASIC_FORMAT" then .notLevelName namedLayout
  else if name = "_STYLES" then .notLevel styleTable
  else .unknownName name

/-- The level with a given name, in any case of letters. -/
def levelOf (name : String) : Except Refusal Int :=
  let name := Text.upperCase name
  (levels.lookup name).elim (.error (refusalOf name)) .ok

/-- The name of a level in an entry. -/
def levelName (level : Int) : String :=
  if level = 50 then "CRITICAL"
  else if level = 40 then "ERROR"
  else if level = 30 then "WARNING"
  else if level = 20 then "INFO"
  else if level = 10 then "DEBUG"
  else if level = 0 then "NOTSET"
  else "Level " ++ integerText level

/-- The level of the notes of a builder. -/
def debug : Int := 10

/-- The level of warnings, which is that of the root when nobody has set it. -/
def warning : Int := 30

end Journal
end SqlDraft
