import QueryDesk.Http.Service
import QueryDesk.Journal.Setup
import QueryDesk.Service.Connection
import QueryDesk.Settings.Basic
import QueryDesk.Inquiry.Instructions

/-!
# Starting the service

The settings are read first and then the journal is set up; each may fail. What is left is a plan:
the address to listen at, the connection to the store, the desk, and the pages that are let in.
-/

namespace QueryDesk

/-- Why the service does not start. -/
inductive StartFault
  | settings (faults : List Schema.Fault)
  | level (name : Text)

def StartFault.message : StartFault → Text
  | settings faults => Settings.faultMessage faults
  | level name => Journal.unknownLevel name

/-- How the service runs. -/
structure Plan where
  settings : Settings
  journal : Journal
  connection : Connection
  desk : Desk
  completion : Completion.Config
  origins : Http.Origins

namespace Plan

/-- The plan for settings, with a journal. -/
def ofSettings (settings : Settings) (journal : Journal) : Plan :=
  { settings, journal
    connection := { uri := settings.uri }
    desk := { instructions := defaultInstructions, limit := settings.limit }
    completion := settings.completion
    origins := .ofList settings.originList }

/-- The plan for an environment and a file. -/
def make (source : Settings.Source) : Except StartFault Plan :=
  match Settings.read source with
  | .error faults => .error (.settings faults)
  | .ok settings =>
    let fromEnvironment := Settings.inEnvironment? source.environment "LOG_LEVEL"
    match Journal.setUp (some settings.level) fromEnvironment with
    | (journal, none) => .ok (ofSettings settings journal)
    | (_, some name) => .error (.level name)

end Plan

end QueryDesk
