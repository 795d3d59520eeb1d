import QueryDesk.Command.Argument
import QueryDesk.Command.Basic
import QueryDesk.Store.Fault

/-!
# Why a command is not carried out

A command fails because its operation is not one of the desk's, because its argument text is no
JSON, because the decoded arguments are not what the operation takes, or in the store. Every
failure but a fault that does not concern the command (`Fault.isReported`) becomes part of the
answer. The message about an unknown operation stands for itself; all others are introduced as
failures of the store's operation.
-/

namespace QueryDesk

/-- What a document is wanted for. -/
inductive DocumentRole
  | creationOptions
  | listFilter
  | commandDocument
  | findFilter
  | insertedDocument
  | updateFilter
  | deletionFilter
  | indexSpecification
  | countFilter
  deriving DecidableEq, Repr

def DocumentRole.describe : DocumentRole → Text
  | creationOptions => "createCollection options"
  | listFilter => "listCollections filter"
  | commandDocument => "runCommand argument"
  | findFilter => "find filter"
  | insertedDocument => "insertOne argument"
  | updateFilter => "update filter"
  | deletionFilter => "delete filter"
  | indexSpecification => "index specification"
  | countFilter => "countDocuments filter"

/-- Why arguments are not what an operation takes. -/
inductive ArgumentFault
  | missingName
  /-- The name for a new collection is empty or no text. -/
  | nameNotText
  /-- Something else stands where a document is wanted. -/
  | notDocument (role : DocumentRole) (found : Json)
  /-- Arguments are given to an operation that takes none. -/
  | unexpected (arguments : Text)
  | emptyCommand
  /-- An update takes two arguments. -/
  | updateArity (count : Nat)
  /-- An update is neither a document nor a pipeline. -/
  | updateShape
  | emptyIndex
  /-- A pipeline is no JSON. -/
  | pipelineText (reason : Json.ReadFault)
  /-- A pipeline is no array. -/
  | pipelineShape

def ArgumentFault.message : ArgumentFault → Text
  | missingName => "Missing collection name for createCollection."
  | nameNotText => "Collection name must be a string (e.g., 'myCollection')."
  | notDocument role found => role.describe ++ " must be a document, got " ++ found.kindName
  | unexpected arguments => "dropDatabase takes no arguments, got: " ++ arguments
  | emptyCommand => "runCommand requires a non-empty command document."
  | updateArity count =>
    "Invalid arguments for update operation: expected a filter and an update document, " ++
      "got " ++ toString count ++ " argument(s)."
  | updateShape => "update must be a document or an aggregation pipeline"
  | emptyIndex => "createIndex requires at least one indexed field."
  | pipelineText reason => "Invalid JSON for aggregation pipeline: " ++ reason.message
  | pipelineShape => "Aggregation pipeline must be an array of stages."

/-- Why a command is not carried out. -/
inductive Failure
  /-- The operation is not one of the desk's. -/
  | unsupported (command : Command)
  | malformed (argument : Command.MalformedArgument)
  | arguments (fault : ArgumentFault)
  | store (fault : Fault)

/-- Whether the fault concerns the command and is part of its answer. -/
def Fault.isReported (f : Fault) : Bool :=
  f.kind.isReported

namespace Failure

/-- The message about an unknown operation, which names it. -/
def unsupportedMessage (command : Command) : Text :=
  match command.target with
  | .database => "Unsupported direct 'db.' operation: " ++ command.operation
  | .collection _ => "Unsupported MongoDB collection operation: " ++ command.operation

/-- What went wrong, without an introduction. -/
def reason : Failure → Text
  | unsupported command => unsupportedMessage command
  | malformed argument => argument.message
  | arguments fault => fault.message
  | store fault => fault.text

/-- What introduces every failure of an operation that the desk knows. -/
def introduction : Text :=
  "MongoDB operation failed: "

def message : Failure → Text
  | unsupported command => unsupportedMessage command
  | failure => introduction ++ failure.reason

/-- The answer that tells a failure. -/
def answer (failure : Failure) : Json :=
  .obj [("error", .str failure.message)]

/-- The fault that ends the request, if this failure is no part of an answer. -/
def escaping? : Failure → Option Fault
  | store fault => if fault.isReported then none else some fault
  | _ => none

end Failure

end QueryDesk
