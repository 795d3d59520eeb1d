import QueryDesk.Command.Segments
import QueryDesk.Desk.Failure
import QueryDesk.Desk.Operation
import QueryDesk.Store.Request

/-!
# From argument text to a request

Each operation decodes the text of its arguments in its own way: most take the whole text as one
document, some only its first segment, and an update takes exactly two segments. `Operation.request`
gives the request that the store is handed, or why there is none; nothing reaches the store before
every argument has been decoded and checked.
-/

namespace QueryDesk

namespace Interpretation

/-- The value of one argument. -/
def decoded (text : List Letter) : Except Failure Json :=
  match Command.Argument.decode text with
  | .ok argument => .ok argument.value
  | .error argument => .error (.malformed argument)

/-- A value that has to be a document. -/
def asDocument (role : DocumentRole) : Json → Except Failure (Members Json)
  | .obj members => .ok members
  | other => .error (.arguments (.notDocument role other))

def document (role : DocumentRole) (text : List Letter) : Except Failure (Members Json) := do
  asDocument role (← decoded text)

/-- The name of a new collection, from the segments of an argument list. -/
def collectionName (segments : List (List Letter)) : Except Failure Text :=
  match segments with
  | [] | [] :: _ => .error (.arguments .missingName)
  | first :: _ =>
    match decoded first with
    | .error failure => .error failure
    | .ok (.str name) => if name.isEmpty then .error (.arguments .nameNotText) else .ok name
    | .ok _ => .error (.arguments .nameNotText)

/-- The options of a new collection, from the segments of an argument list. -/
def creationOptions (segments : List (List Letter)) : Except Failure (Members Json) :=
  match segments with
  | _ :: second :: _ => document .creationOptions second
  | _ => .ok []

def creation (text : List Letter) : Except Failure DatabaseRequest := do
  let segments := Command.segments text
  let name ← collectionName segments
  return .createCollection name (← creationOptions segments)

/-- A command document, which must not be empty. -/
def commandDocument (text : List Letter) : Except Failure (Members Json) := do
  match ← document .commandDocument text with
  | [] => .error (.arguments .emptyCommand)
  | members => return members

/-- The fields of an index, at least one. -/
def indexKeys (text : List Letter) : Except Failure (Members Json) := do
  match ← document .indexSpecification (Command.firstSegment text) with
  | [] => .error (.arguments .emptyIndex)
  | members => return members

/-- An update: a document or a pipeline. -/
def asUpdate : Json → Except Failure Json
  | .obj members => .ok (.obj members)
  | .arr stages => .ok (.arr stages)
  | _ => .error (.arguments .updateShape)

/-- The filter and the update of an argument list that has exactly these two segments. -/
def filterAndUpdate (text : List Letter) : Except Failure (Members Json × Json) :=
  match Command.segments text with
  | [filter, update] => do
    let filter ← document .updateFilter filter
    return (filter, ← asUpdate (← decoded update))
  | segments => .error (.arguments (.updateArity segments.length))

/-- The stages of a pipeline. They are never repaired. -/
def pipeline (text : List Letter) : Except Failure (List Json) :=
  match Command.Argument.readStrict text with
  | .error reason => .error (.arguments (.pipelineText reason))
  | .ok (.arr stages) => .ok stages
  | .ok _ => .error (.arguments .pipelineShape)

end Interpretation

open Interpretation

/-- The request of an operation on the database. -/
def DatabaseOperation.request (arguments : Text) :
    DatabaseOperation → Except Failure DatabaseRequest
  | createCollection => creation arguments.toList
  | dropDatabase =>
    if Text.isBlankText arguments then .ok .dropDatabase
    else .error (.arguments (.unexpected arguments))
  | listCollections => return .listCollections (← document .listFilter arguments.toList)
  | runCommand => return .runCommand (← commandDocument arguments.toList)

/-- The request of an operation on a collection; `limit` is how many documents are found at most. -/
def CollectionOperation.request (limit : Nat) (arguments : Text) :
    CollectionOperation → Except Failure CollectionRequest
  | find => do
    return .find (← document .findFilter (Command.firstSegment arguments.toList)) limit
  | insertOne => return .insertOne (← document .insertedDocument arguments.toList)
  | updateOne => do
    let (filter, update) ← filterAndUpdate arguments.toList
    return .updateOne filter update
  | updateMany => do
    let (filter, update) ← filterAndUpdate arguments.toList
    return .updateMany filter update
  | deleteOne => return .deleteOne (← document .deletionFilter arguments.toList)
  | deleteMany => return .deleteMany (← document .deletionFilter arguments.toList)
  | createIndex => return .createIndex (← indexKeys arguments.toList)
  | countDocuments => return .countDocuments (← document .countFilter arguments.toList)
  | aggregate => return .aggregate (← pipeline arguments.toList)

/-- The request of an operation with the text of its arguments. -/
def Operation.request (limit : Nat) (arguments : Text) : Operation → Except Failure Request
  | database operation => return .database (← operation.request arguments)
  | collection name operation => return .collection name (← operation.request limit arguments)

end QueryDesk
