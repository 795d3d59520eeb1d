import QueryDesk.Journal.Event
import QueryDesk.Text.Capital

/-!
# Setting up the journal

The journal starts with a level: events that matter less are not written. The level is given by name
in any letter case; two levels have a second name. Once the journal is open, two chatty libraries
are told to write warnings only. If the name is unknown the journal is open but keeps the level that
it had, and the libraries keep theirs.
-/

namespace QueryDesk

def Severity.name : Severity → Text
  | critical => "CRITICAL"
  | error => "ERROR"
  | warning => "WARNING"
  | info => "INFO"
  | debug => "DEBUG"
  | notSet => "NOTSET"

/-- The names of levels; two levels have a second one. -/
def Severity.names : Members Severity :=
  [("CRITICAL", critical), ("FATAL", critical), ("ERROR", error), ("WARNING", warning),
    ("WARN", warning), ("INFO", info), ("DEBUG", debug), ("NOTSET", notSet)]

def Severity.ofName? (name : Text) : Option Severity :=
  Severity.names.get? name

theorem Severity.ofName?_name (s : Severity) : Severity.ofName? s.name = some s := by
  cases s <;> decide

/-- What the journal writes and where. -/
structure Journal where
  /-- How many outputs it has. -/
  outputs : Nat := 0
  /-- The layout of a line in an output. -/
  layout : Option Text := none
  /-- The least severity that is written. -/
  level : Severity := .warning
  /-- The least severity that the store's client library writes. -/
  storeClient : Severity := .notSet
  /-- The least severity that the web server's access log writes. -/
  accessLog : Severity := .notSet
  deriving DecidableEq, Repr

namespace Journal

/-- The layout of a line. -/
def lineLayout : Text :=
  "%(asctime)s %(levelname)s %(name)s %(message)s"

/-- The name of the level that is asked for: the given one, else that of the environment, else
`INFO`, in capitals. An empty name counts as none. -/
def levelName (given fromEnvironment : Option Text) : Text :=
  let name :=
    if !(given.getD "").isEmpty then given.getD ""
    else if !(fromEnvironment.getD "").isEmpty then fromEnvironment.getD ""
    else "INFO"
  Text.capitals name

def unknownLevel (name : Text) : Text :=
  "Unknown level: " ++ Text.quoted name

/-- The journal after its output was opened. -/
def opened (journal : Journal) : Journal :=
  { journal with outputs := 1, layout := some lineLayout }

/-- The journal after it was set to a level by name, and the name if no level has it. -/
def atLevel (name : Text) : Journal × Option Text :=
  let journal := opened {}
  match Severity.ofName? name with
  | some level => ({ journal with level, storeClient := .warning, accessLog := .warning }, none)
  | none => (journal, some name)

/-- Sets up the journal. -/
def setUp (given fromEnvironment : Option Text) : Journal × Option Text :=
  atLevel (levelName given fromEnvironment)

end Journal

end QueryDesk
