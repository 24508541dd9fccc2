import SqlDraft.Builder.Note
import SqlDraft.Journal.Layout

/-!
# The journal

Entries are written under the names of loggers.  The known loggers form a tree with the root at the
top: a logger that becomes known goes below the longest of its dotted beginnings that is known, and
above the known loggers of which it is a dotted beginning.  A logger without a level of its own
takes that of the nearest logger above it.

The console belongs to one logger and prints what is written under that logger and below it.  An
entry that no console prints is printed as its bare message if it is at least a warning.
-/

namespace SqlDraft

/-- What prints entries; without a layout it prints bare messages. -/
structure Console where
  /-- The layout. -/
  layout : Option Journal.Layout := none
deriving DecidableEq, Repr

/-- The line that a console prints for an entry. -/
def Console.line (console : Console) (entry : Journal.Entry) : String :=
  console.layout.elim entry.message (·.render entry) ++ "\n"

/-- A known logger. -/
structure Logger where
  /-- The name. -/
  name : String
  /-- The own level; zero means none. -/
  level : Int := 0
  /-- The name of the logger above, which may be the root. -/
  above : String
deriving DecidableEq, Repr

namespace Journal

/-- The logger that the console belongs to. -/
def mainLogger : String := "fluentql"

/-- The logger of builders. -/
def builderLogger : String := "fluentql.compile.builder"

/-- The name of the root. -/
def rootName : String := "root"

end Journal

/-- The state of the journal. -/
structure Journal where
  /-- The level of the root. -/
  rootLevel : Int := Journal.warning
  /-- The known loggers other than the root. -/
  loggers : List Logger :=
    [⟨Journal.mainLogger, 0, Journal.rootName⟩, ⟨Journal.builderLogger, 0, Journal.mainLogger⟩]
  /-- The console, if there is one. -/
  console : Option Console := none
deriving Repr

namespace Journal

/-- The dotted beginnings of a name, longest first, from its characters in reverse.  The character
before a dot is not looked at, so of two dots in a row only the second counts. -/
def beginningsOf : List Char → List (List Char)
  | [] => []
  | '.' :: before :: rest => (before :: rest).reverse :: beginningsOf rest
  | _ :: rest => beginningsOf rest

/-- The dotted beginnings of a name, longest first. -/
def beginnings (name : String) : List String :=
  (beginningsOf name.toList.reverse).map String.ofList

/-- The name is that of the root. -/
def isRoot (name : String) : Bool := name.isEmpty || name == rootName

/-- The known logger with a given name. -/
def logger? (journal : Journal) (name : String) : Option Logger :=
  journal.loggers.find? fun logger => logger.name == name

/-- The longest dotted beginning of a name that is known, or else the root. -/
def placeFor (journal : Journal) (name : String) : String :=
  ((beginnings name).find? fun beginning => (journal.logger? beginning).isSome).getD rootName

/-- A known logger after one with the given name has become known.  If that name is a dotted
beginning of its own, it goes below the new one, unless the logger above it, be it the root, has a
name that begins with the new name. -/
def adopt (name : String) (logger : Logger) : Logger :=
  if (beginnings logger.name).contains name && !logger.above.startsWith name then
    { logger with above := name }
  else
    logger

/-- Make a logger known. -/
def know (journal : Journal) (name : String) : Journal :=
  if isRoot name || (journal.logger? name).isSome then journal
  else
    { journal with
      loggers := journal.loggers.map (adopt name) ++ [⟨name, 0, journal.placeFor name⟩] }

/-- A known logger and those above it below the root, at most as many as the number says. -/
def lineageWithin (journal : Journal) : Nat → String → List Logger
  | 0, _ => []
  | steps + 1, name =>
      match journal.logger? name with
      | none => []
      | some logger => logger :: journal.lineageWithin steps logger.above

/-- A known logger and those above it below the root.  Every name above is shorter. -/
def lineage (journal : Journal) (name : String) : List Logger :=
  journal.lineageWithin (name.length + 1) name

/-- The own level of a logger. -/
def ownLevel (journal : Journal) (name : String) : Int :=
  if isRoot name then journal.rootLevel else (journal.logger? name).elim 0 Logger.level

/-- The level that counts for a logger. -/
def effectiveLevel (journal : Journal) (name : String) : Int :=
  if isRoot name then
    journal.rootLevel
  else
    ((journal.lineage name).map Logger.level).find? (· ≠ 0) |>.getD journal.rootLevel

/-- Set the own level of a logger. -/
def setLevel (journal : Journal) (name : String) (level : Int) : Journal :=
  if isRoot name then
    { journal with rootLevel := level }
  else
    let known := journal.know name
    { known with
      loggers := known.loggers.map fun logger =>
        if logger.name = name then { logger with level } else logger }

/-- Look a logger up, which makes it known, and set its level unless the level is empty. -/
def getLogger (journal : Journal) (name level : String) : Journal × Except Refusal Unit :=
  let known := journal.know name
  if level.isEmpty then
    (known, .ok ())
  else
    match levelOf level with
    | .ok level => (known.setLevel name level, .ok ())
    | .error refusal => (known, .error refusal)

/-- The console after a request to have one or none. -/
def consoleAfter (journal : Journal) (wanted : Bool) : Option Console :=
  if wanted then some (journal.console.getD {}) else none

/-- Set the level of the main logger, then have or remove the console, then lay it out.  What comes
before a refusal stays done. -/
def setUp (journal : Journal) (level : String) (console : Bool) (format : String) :
    Journal × Except Refusal Unit :=
  match levelOf level with
  | .error refusal => (journal, .error refusal)
  | .ok level =>
      let prepared :=
        { journal.setLevel mainLogger level with console := journal.consoleAfter console }
      if console then
        match Layout.ofFormat format with
        | .ok layout => ({ prepared with console := some ⟨some layout⟩ }, .ok ())
        | .error refusal => (prepared, .error refusal)
      else
        (prepared, .ok ())

/-- The entry is severe enough for its logger. -/
def passes (journal : Journal) (entry : Entry) : Bool :=
  0 < entry.level && journal.effectiveLevel entry.logger ≤ entry.level

/-- The console that prints what is written under a known logger, if there is one. -/
def consoleFor? (journal : Journal) (name : String) : Option Console :=
  if (journal.lineage name).any fun logger => logger.name == mainLogger then journal.console
  else none

/-- What is printed for an entry of a known logger.  Without a console only warnings and what is
more severe are printed, as bare messages. -/
def print (journal : Journal) (entry : Entry) : String :=
  if journal.passes entry then
    match journal.consoleFor? entry.logger with
    | some console => console.line entry
    | none => if warning ≤ entry.level then Console.line {} entry else ""
  else
    ""

/-- Write an entry, which makes its logger known, and print it. -/
def write (journal : Journal) (entry : Entry) : Journal × String :=
  let known := journal.know entry.logger
  (known, known.print entry)

/-- The entry for a note of a builder. -/
def entryOf (note : Note) : Entry := ⟨builderLogger, debug, note.message⟩

/-- The line that records an entry: its level, its logger and its message. -/
def recordLine (entry : Entry) : String :=
  levelName entry.level ++ " " ++ entry.logger ++ " " ++ entry.message

end Journal
end SqlDraft
