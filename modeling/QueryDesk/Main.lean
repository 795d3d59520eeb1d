import QueryDesk.Service.Startup

/-!
# The desk at a console

Started from a console, the desk takes its settings from the environment, keeps its store in memory,
and reads a draft a line from standard input. The command in it is carried out, and its result is
printed as one line of JSON.
-/

namespace QueryDesk.Console

/-- A text as it is shown at the console: half of a pair of UTF-16 units becomes U+FFFD there. -/
def shown (s : Text) : String :=
  .ofList (s.toList.map fun
    | .char c => c
    | .half _ => '\ufffd')

def environment : IO (List (Text × Text)) :=
  Settings.variableNames.filterMapM fun name => do
    return (← IO.getEnv (shown name)).map fun value => (name, value)

/-- The line that a value is printed as, or why there is none. -/
def line (value : Value) : Except Text Text :=
  match value.verbatim .accepted with
  | .error reason => .error reason.message
  | .ok json =>
    match json.wire? with
    | some text => .ok text
    | none => .error Unwritable.tooManyDigits.message

/-- Reads drafts until the input ends. -/
partial def serve (desk : Desk) (s : Store) : IO Unit := do
  let draft ← (← IO.getStdin).getLine
  if draft.isEmpty then return
  let (s, result, _) := desk.carryOut s (Draft.command (some draft))
  match result.mapError Fault.text >>= line with
  | .ok text => IO.println (shown text)
  | .error message => IO.eprintln (shown message)
  serve desk s

/-- What is said about settings that cannot be read. -/
def report : StartFault → List Text
  | .settings faults =>
    Settings.faultMessage faults :: faults.map fun f => f.field ++ ": " ++ f.problem.message
  | fault => [fault.message]

end QueryDesk.Console

/-- Starts the desk; with faulty settings it says what is wrong with them and ends. -/
def main : IO UInt32 := do
  match QueryDesk.Plan.make { environment := ← QueryDesk.Console.environment } with
  | .error fault =>
    for line in QueryDesk.Console.report fault do
      IO.eprintln (QueryDesk.Console.shown line)
    return 1
  | .ok plan =>
    QueryDesk.Console.serve plan.desk { name := plan.settings.database }
    return 0
