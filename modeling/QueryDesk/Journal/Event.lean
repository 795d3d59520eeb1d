import QueryDesk.Desk.Failure
import QueryDesk.Store.Value

/-!
# The journal

The service writes down what it does: one event for each step of a request, and two for its own
life. An event knows how much it matters, which part of the service it comes from, and its message.
How long a step took is handed to `Event.message`, since it differs from run to run.
`Event.ofExecution` says which events tell of one command.
-/

namespace QueryDesk

/-- How much an event matters. -/
inductive Severity
  | critical
  | error
  | warning
  | info
  | debug
  /-- No severity of its own: everything matters. -/
  | notSet
  deriving DecidableEq, Repr

/-- The part of the service that an event comes from. -/
inductive Component
  | arguments
  | dispatch
  | inquiry
  | service
  deriving DecidableEq, Repr

/-- Something that the service did. -/
inductive Event
  /-- Argument text is no JSON, even after repair. -/
  | argumentRefused (argument : Command.MalformedArgument)
  /-- A command names an operation that the desk does not know. -/
  | unsupported (command : Command)
  /-- The store refused, or its reply cannot be shown. -/
  | storeFault (command : Command) (fault : Fault)
  | failed (command : Command) (reason : Text)
  | dispatched (command : Command)
  | received (query : Text)
  /-- The generator gave no draft. -/
  | generationFailed (reason : Text)
  /-- The generator gave a draft, in which a command was found. -/
  | generated (draft : Option Text) (command : Text)
  /-- The text is no command. -/
  | unparseable (command : Text)
  | responded
  /-- The store was reached. -/
  | connected (database : Text)
  | shuttingDown

namespace Event

def severity : Event → Severity
  | argumentRefused _ | storeFault _ _ | generationFailed _ => .warning
  | _ => .info

def component : Event → Component
  | argumentRefused _ => .arguments
  | unsupported _ | storeFault _ _ | failed _ _ | dispatched _ => .dispatch
  | connected _ | shuttingDown => .service
  | _ => .inquiry

/-- The collection that a message names. -/
def collectionText (command : Command) : Text :=
  command.target.collection?.getD "None"

/-- How a message names a command. -/
def commandText (command : Command) : Text :=
  "kind=" ++ command.target.kindName ++ " collection=" ++ collectionText command ++ " " ++
    "operation=" ++ command.operation

/-- The message of an event; `elapsed` is the number of milliseconds that the step took. -/
def message (elapsed : Text) : Event → Text
  | argumentRefused argument =>
    "argument decode failed text=" ++ Text.quoted (.ofList argument.text) ++ " " ++
      "repaired=" ++ Text.quoted (.ofList argument.repaired) ++ " reason=" ++
      argument.reason.message
  | unsupported command => "unsupported " ++ commandText command
  | storeFault command fault =>
    "store call failed collection=" ++ collectionText command ++
      " operation=" ++ command.operation ++ " " ++
      "error=" ++ fault.text
  | failed command reason => "operation failed " ++ commandText command ++ " reason=" ++ reason
  | dispatched command => "dispatched " ++ commandText command ++ " latency_ms=" ++ elapsed
  | received query => "received query=" ++ Text.quoted query
  | generationFailed reason => "generation failed reason=" ++ reason
  | generated draft command =>
    "generated raw=" ++ Text.quotedOption draft ++ " command=" ++ Text.quoted command
  | unparseable command => "unparseable command=" ++ Text.quoted command
  | responded => "responded latency_ms=" ++ elapsed
  | connected database => "connected to MongoDB db=" ++ database
  | shuttingDown => "shutting down"

/-- The events of a failed command. A fault that ends the request is not told here. -/
def ofFailure (command : Command) (failure : Failure) : List Event :=
  match failure with
  | .unsupported _ => [unsupported command]
  | .malformed argument => [argumentRefused argument, failed command argument.message]
  | .arguments fault => [failed command fault.message]
  | .store fault =>
    if fault.isReported then [storeFault command fault, failed command fault.text] else []

/-- The events of a command, from its outcome. -/
def ofExecution (command : Command) : Except Failure Value → List Event
  | .ok _ => [dispatched command]
  | .error failure => ofFailure command failure

end Event

end QueryDesk
