import QueryDesk.Desk.Interpretation
import QueryDesk.Proofs.Store.Finite

/-!
# What arguments are read as

An operation reads its arguments as a request of its own (`Operation.operation_of_request`), or it
refuses them. `Operation.checks` lists what is checked, in the order in which it is checked, and
each check says what is wrong if those before it have left something to look at. The arguments are
refused exactly if a check fails, and for the first one that does (`Operation.follows_request`).

`Follows` ties a computation to the list of its steps. Steps in a row follow the lists in a row
(`Follows.bind`), so each reading is put together from its parts.
-/

namespace QueryDesk

/-! ## The operation of a request -/

/-- The operation that asks for a request. -/
def DatabaseRequest.operation : DatabaseRequest → DatabaseOperation
  | createCollection _ _ => .createCollection
  | dropDatabase => .dropDatabase
  | listCollections _ => .listCollections
  | runCommand _ => .runCommand

/-- The operation that asks for a request. -/
def CollectionRequest.operation : CollectionRequest → CollectionOperation
  | find _ _ => .find
  | insertOne _ => .insertOne
  | updateOne _ _ => .updateOne
  | updateMany _ _ => .updateMany
  | deleteOne _ => .deleteOne
  | deleteMany _ => .deleteMany
  | createIndex _ => .createIndex
  | countDocuments _ => .countDocuments
  | aggregate _ => .aggregate

/-- The operation that asks for a request, with what it is addressed to. -/
def Request.operation : Request → Operation
  | database request => .database request.operation
  | collection name request => .collection name request.operation

theorem DatabaseOperation.operation_of_request {operation : DatabaseOperation} {arguments : Text}
    {request : DatabaseRequest} (asked : operation.request arguments = .ok request) :
    request.operation = operation := by
  cases operation with
  | createCollection =>
    obtain ⟨name, -, asked⟩ := exists_of_bind_eq_ok asked
    obtain ⟨options, -, asked⟩ := exists_of_bind_eq_ok asked
    cases asked
    rfl
  | dropDatabase =>
    rw [DatabaseOperation.request] at asked
    split at asked
    · cases asked
      rfl
    · cases asked
  | listCollections =>
    obtain ⟨filter, -, asked⟩ := exists_of_bind_eq_ok asked
    cases asked
    rfl
  | runCommand =>
    obtain ⟨command, -, asked⟩ := exists_of_bind_eq_ok asked
    cases asked
    rfl

theorem CollectionOperation.operation_of_request {operation : CollectionOperation} {limit : Nat}
    {arguments : Text} {request : CollectionRequest}
    (asked : operation.request limit arguments = .ok request) :
    request.operation = operation := by
  -- what was decoded does not matter, only what it is put into
  cases operation <;>
  · obtain ⟨decoded, -, asked⟩ := exists_of_bind_eq_ok asked
    cases asked
    rfl

/-- An operation makes requests of its own only. -/
theorem Operation.operation_of_request {operation : Operation} {limit : Nat} {arguments : Text}
    {request : Request} (asked : operation.request limit arguments = .ok request) :
    request.operation = operation := by
  cases operation with
  | database operation =>
    obtain ⟨inner, asked', asked⟩ := exists_of_bind_eq_ok asked
    cases asked
    rw [Request.operation, DatabaseOperation.operation_of_request asked']
  | collection name operation =>
    obtain ⟨inner, asked', asked⟩ := exists_of_bind_eq_ok asked
    cases asked
    rw [Request.operation, CollectionOperation.operation_of_request asked']

/-! ## Steps -/

/-- The first failure in a list of steps. -/
def firstFailure (steps : List (Option Failure)) : Option Failure :=
  steps.findSome? id

theorem firstFailure_append (steps more : List (Option Failure)) :
    firstFailure (steps ++ more) = (firstFailure steps).or (firstFailure more) :=
  List.findSome?_append

/-- The computation fails exactly if one of the steps does, and with the first failure of them. -/
def Follows {α : Type} (x : Except Failure α) (steps : List (Option Failure)) : Prop :=
  ∀ failure, x = .error failure ↔ firstFailure steps = some failure

namespace Follows

variable {α β : Type} {x : Except Failure α} {steps more : List (Option Failure)}

theorem ok (a : α) : Follows (.ok a) [] := by
  intro failure
  constructor
  · intro failed
    cases failed
  · intro failed
    cases failed

theorem error (failure : Failure) : Follows (.error failure : Except Failure α) [some failure] := by
  intro other
  constructor
  · rintro ⟨rfl⟩
    rfl
  · intro failed
    cases failed
    rfl

theorem firstFailure_eq_none (follows : Follows x steps) {a : α} (done : x = .ok a) :
    firstFailure steps = none := by
  cases first : firstFailure steps with
  | none => rfl
  | some failure =>
    have failed := (follows failure).mpr first
    rw [done] at failed
    cases failed

/-- A step in front that nothing comes of. -/
theorem skip (follows : Follows x steps) : Follows x (none :: steps) := follows

/-- What follows a computation takes its steps after those of the computation. -/
theorem bind {f : α → Except Failure β} (first : Follows x steps)
    (next : ∀ a, x = .ok a → Follows (f a) more) : Follows (x >>= f) (steps ++ more) := by
  intro failure
  rw [firstFailure_append]
  cases x with
  | error other =>
    -- the first part has failed, and the second is not reached
    rw [(first other).mp rfl, Option.some_or]
    exact error other failure
  | ok a =>
    rw [first.firstFailure_eq_none rfl, Option.none_or]
    exact next a rfl failure

/-- What is only put into another form takes no steps. -/
theorem map (follows : Follows x steps) (f : α → β) :
    Follows (x >>= fun a => .ok (f a)) steps := by
  have followed := follows.bind fun a _ => ok (f a)
  rw [List.append_nil] at followed
  exact followed

end Follows

/-! ## Checks -/

/-- Why arguments are refused: they cannot be decoded, or are not what the operation takes. -/
inductive Refusal
  | malformed (argument : Command.MalformedArgument)
  | unfit (fault : ArgumentFault)

def Refusal.failure : Refusal → Failure
  | malformed argument => .malformed argument
  | unfit fault => .arguments fault

/-- Checks as steps. -/
def told (checks : List (Option Refusal)) : List (Option Failure) :=
  checks.map (Option.map Refusal.failure)

theorem told_append (checks more : List (Option Refusal)) :
    told (checks ++ more) = told checks ++ told more :=
  List.map_append

/-- What fails by a check is a refusal. -/
theorem Follows.exists_refusal {α : Type} {x : Except Failure α} {checks : List (Option Refusal)}
    (follows : Follows x (told checks)) {failure : Failure} (failed : x = .error failure) :
    ∃ refusal : Refusal, failure = refusal.failure := by
  obtain ⟨step, member, found⟩ :=
    List.exists_of_findSome?_eq_some ((follows failure).mp failed)
  obtain ⟨check, -, rfl⟩ := List.mem_map.mp member
  obtain ⟨refusal, -, same⟩ := Option.map_eq_some_iff.mp found
  exact ⟨refusal, same.symm⟩

namespace Interpretation

open Command

/-- What goes wrong in decoding a text. -/
def malformed? (text : List Letter) : Option Refusal :=
  match Argument.decode text with
  | .ok _ => none
  | .error argument => some (.malformed argument)

/-- What is wrong with the value of a text, if it has a value. -/
def unfit? (fault? : Json → Option ArgumentFault) (text : List Letter) : Option Refusal :=
  match Argument.decode text with
  | .ok argument => (fault? argument.value).map .unfit
  | .error _ => none

def notDocument? (role : DocumentRole) : Json → Option ArgumentFault
  | .obj _ => none
  | other => some (.notDocument role other)

/-- The fault of a document without members. -/
def empty? (fault : ArgumentFault) : Json → Option ArgumentFault
  | .obj [] => some fault
  | _ => none

def notName? : Json → Option ArgumentFault
  | .str name => if name.isEmpty then some .nameNotText else none
  | _ => some .nameNotText

def notUpdate? : Json → Option ArgumentFault
  | .obj _ => none
  | .arr _ => none
  | _ => some .updateShape

/-- The checks of an argument that has to be a document. -/
def documentChecks (role : DocumentRole) (text : List Letter) : List (Option Refusal) :=
  [malformed? text, unfit? (notDocument? role) text]

/-- The checks of a document that has to have members. -/
def nonemptyChecks (role : DocumentRole) (fault : ArgumentFault) (text : List Letter) :
    List (Option Refusal) :=
  documentChecks role text ++ [unfit? (empty? fault) text]

/-- The checks of the segment that names a new collection. -/
def nameChecks : List (List Letter) → List (Option Refusal)
  | [] | [] :: _ => [some (.unfit .missingName)]
  | first :: _ => [malformed? first, unfit? notName? first]

/-- The checks of the segment after the name. -/
def optionChecks : List (List Letter) → List (Option Refusal)
  | _ :: second :: _ => documentChecks .creationOptions second
  | _ => []

/-- The checks of an update: that there are two segments, then those of either. -/
def updateChecks : List (List Letter) → List (Option Refusal)
  | [filter, update] =>
    documentChecks .updateFilter filter ++ [malformed? update, unfit? notUpdate? update]
  | segments => [some (.unfit (.updateArity segments.length))]

def pipelineChecks (text : List Letter) : List (Option Refusal) :=
  match Argument.readStrict text with
  | .error reason => [some (.unfit (.pipelineText reason))]
  | .ok (.arr _) => [none]
  | .ok _ => [some (.unfit .pipelineShape)]

end Interpretation

open Interpretation in
/-- The checks of the arguments of an operation on the database. -/
def DatabaseOperation.checks (arguments : Text) : DatabaseOperation → List (Option Refusal)
  | createCollection =>
    let segments := Command.segments arguments.toList
    nameChecks segments ++ optionChecks segments
  | dropDatabase =>
    [if Text.isBlankText arguments then none else some (.unfit (.unexpected arguments))]
  | listCollections => documentChecks .listFilter arguments.toList
  | runCommand => nonemptyChecks .commandDocument .emptyCommand arguments.toList

open Interpretation in
/-- The checks of the arguments of an operation on a collection. -/
def CollectionOperation.checks (arguments : Text) : CollectionOperation → List (Option Refusal)
  | find => documentChecks .findFilter (Command.firstSegment arguments.toList)
  | insertOne => documentChecks .insertedDocument arguments.toList
  | updateOne | updateMany => updateChecks (Command.segments arguments.toList)
  | deleteOne | deleteMany => documentChecks .deletionFilter arguments.toList
  | createIndex =>
    nonemptyChecks .indexSpecification .emptyIndex (Command.firstSegment arguments.toList)
  | countDocuments => documentChecks .countFilter arguments.toList
  | aggregate => pipelineChecks arguments.toList

def Operation.checks (arguments : Text) : Operation → List (Option Refusal)
  | database operation => operation.checks arguments
  | collection _ operation => operation.checks arguments

/-! ## Readings -/

namespace Interpretation

theorem follows_decoded (text : List Letter) : Follows (decoded text) (told [malformed? text]) := by
  rw [decoded, malformed?]
  cases Command.Argument.decode text with
  | ok argument => exact (Follows.ok argument.value).skip
  | error argument => exact .error _

theorem unfit?_of_decoded {text : List Letter} {v : Json} (fault? : Json → Option ArgumentFault)
    (found : decoded text = .ok v) : unfit? fault? text = (fault? v).map .unfit := by
  rw [decoded] at found
  rw [unfit?]
  cases decodes : Command.Argument.decode text with
  | ok argument =>
    rw [decodes] at found
    cases found
    rfl
  | error argument =>
    rw [decodes] at found
    cases found

/-- A check of a decoded value comes after the decoding. -/
theorem follows_check {α : Type} {text : List Letter} {check : Json → Except Failure α}
    {fault? : Json → Option ArgumentFault}
    (fits : ∀ v, Follows (check v) (told [(fault? v).map .unfit])) :
    Follows (decoded text >>= check) (told [malformed? text, unfit? fault? text]) := by
  show Follows _ (told [malformed? text] ++ told [unfit? fault? text])
  refine (follows_decoded text).bind fun v found => ?_
  rw [unfit?_of_decoded fault? found]
  exact fits v

/-- A text that is read as a document is decoded to it. -/
theorem decoded_of_document {role : DocumentRole} {text : List Letter} {members : Members Json}
    (found : document role text = .ok members) : decoded text = .ok (.obj members) := by
  obtain ⟨v, decodes, isDocument⟩ := exists_of_bind_eq_ok found
  cases v with
  | obj members' =>
    cases isDocument
    exact decodes
  | _ => cases isDocument

theorem follows_document (role : DocumentRole) (text : List Letter) :
    Follows (document role text) (told (documentChecks role text)) := by
  refine follows_check fun v => ?_
  cases v with
  | obj members => exact (Follows.ok members).skip
  | _ => exact .error _

/-- A document that has to have members is checked for them at last. -/
theorem follows_nonempty (role : DocumentRole) (fault : ArgumentFault) (text : List Letter) :
    Follows (document role text >>= fun
      | [] => .error (.arguments fault)
      | members => .ok members) (told (nonemptyChecks role fault text)) := by
  rw [nonemptyChecks, told_append]
  refine (follows_document role text).bind fun members found => ?_
  rw [unfit?_of_decoded _ (decoded_of_document found)]
  cases members with
  | nil => exact .error _
  | cons first rest => exact (Follows.ok _).skip

/-- A value that has to be a name. -/
def asName : Json → Except Failure Text
  | .str name => if name.isEmpty then .error (.arguments .nameNotText) else .ok name
  | _ => .error (.arguments .nameNotText)

/-- A name is decoded first, and checked then. -/
theorem collectionName_cons (c : Letter) (text : List Letter) (rest : List (List Letter)) :
    collectionName ((c :: text) :: rest) = decoded (c :: text) >>= asName := by
  simp only [collectionName]
  cases decoded (c :: text) with
  | error failure => rfl
  | ok v => cases v <;> rfl

theorem follows_asName (v : Json) : Follows (asName v) (told [(notName? v).map .unfit]) := by
  cases v with
  | str name =>
    rw [asName, notName?]
    by_cases empty : name.isEmpty = true
    · rw [if_pos empty, if_pos empty]
      exact .error _
    · rw [if_neg empty, if_neg empty]
      exact (Follows.ok name).skip
  | _ => exact .error _

theorem follows_collectionName (segments : List (List Letter)) :
    Follows (collectionName segments) (told (nameChecks segments)) := by
  match segments with
  | [] => exact .error _
  | [] :: _ => exact .error _
  | (c :: text) :: rest =>
    rw [collectionName_cons]
    exact follows_check follows_asName

theorem follows_creationOptions (segments : List (List Letter)) :
    Follows (creationOptions segments) (told (optionChecks segments)) := by
  match segments with
  | [] => exact .ok _
  | [_] => exact .ok _
  | _ :: second :: _ => exact follows_document .creationOptions second

theorem follows_creation (text : List Letter) :
    Follows (creation text)
      (told (nameChecks (Command.segments text) ++ optionChecks (Command.segments text))) := by
  rw [told_append]
  refine (follows_collectionName _).bind fun name _ => ?_
  exact (follows_creationOptions _).map _

theorem follows_asUpdate (v : Json) :
    Follows (asUpdate v) (told [(notUpdate? v).map .unfit]) := by
  cases v with
  | obj members => exact (Follows.ok _).skip
  | arr stages => exact (Follows.ok _).skip
  | _ => exact .error _

theorem follows_filterAndUpdate (text : List Letter) :
    Follows (filterAndUpdate text) (told (updateChecks (Command.segments text))) := by
  rw [filterAndUpdate]
  generalize Command.segments text = segments
  match segments with
  | [filter, update] =>
    -- the filter is done with before the update is looked at
    rw [updateChecks, told_append]
    refine (follows_document .updateFilter filter).bind fun members _ => ?_
    have checked : Follows (decoded update >>= asUpdate)
        (told [malformed? update, unfit? notUpdate? update]) := follows_check follows_asUpdate
    have paired := checked.map (Prod.mk members)
    rw [bind_assoc] at paired
    exact paired
  | [] => exact .error _
  | [_] => exact .error _
  | _ :: _ :: _ :: _ => exact .error _

theorem follows_pipeline (text : List Letter) :
    Follows (pipeline text) (told (pipelineChecks text)) := by
  rw [pipeline, pipelineChecks]
  cases Command.Argument.readStrict text with
  | error reason => exact .error _
  | ok v =>
    cases v with
    | arr stages => exact (Follows.ok stages).skip
    | _ => exact .error _

end Interpretation

open Interpretation

theorem DatabaseOperation.follows_request (operation : DatabaseOperation) (arguments : Text) :
    Follows (operation.request arguments) (told (operation.checks arguments)) := by
  cases operation with
  | createCollection => exact follows_creation _
  | dropDatabase =>
    rw [DatabaseOperation.request, DatabaseOperation.checks]
    split
    · exact (Follows.ok _).skip
    · exact .error _
  | listCollections => exact (follows_document _ _).map _
  | runCommand => exact (follows_nonempty .commandDocument .emptyCommand _).map _

theorem CollectionOperation.follows_request (operation : CollectionOperation) (limit : Nat)
    (arguments : Text) :
    Follows (operation.request limit arguments) (told (operation.checks arguments)) := by
  cases operation with
  | find => exact (follows_document _ _).map _
  | insertOne => exact (follows_document _ _).map _
  | updateOne => exact (follows_filterAndUpdate _).map _
  | updateMany => exact (follows_filterAndUpdate _).map _
  | deleteOne => exact (follows_document _ _).map _
  | deleteMany => exact (follows_document _ _).map _
  | createIndex => exact (follows_nonempty .indexSpecification .emptyIndex _).map _
  | countDocuments => exact (follows_document _ _).map _
  | aggregate => exact (follows_pipeline _).map _

/-- The arguments of an operation are refused exactly if one of their checks fails, and for the
first one that does. -/
theorem Operation.follows_request (operation : Operation) (limit : Nat) (arguments : Text) :
    Follows (operation.request limit arguments) (told (operation.checks arguments)) := by
  cases operation with
  | database operation => exact (operation.follows_request arguments).map _
  | collection name operation => exact (operation.follows_request limit arguments).map _

end QueryDesk
