import QueryDesk.Store.Fault
import QueryDesk.Store.Plain

/-!
# Replies of a store

What the store says to a request, and how it is shown: under the names that a shell prints, with
every stored value in its plain form. `Reply.present` fails where a value has no plain form, or
where the count of a write is asked for that the store did not acknowledge. Counts and the names of
collections are shown as they come; should one of them be no JSON, only writing the result fails.
-/

namespace QueryDesk

/-- The reply to an update or a deletion. Counts are shown as they come. -/
structure WriteReply where
  acknowledged : Bool
  /-- How many documents the filter selected. -/
  selected : Value := .int 0
  /-- How many documents changed. -/
  modified : Value := .null
  /-- The identifier of a document that an update put in, or null. -/
  upserted : Value := .null

inductive Reply
  | created (name : Text)
  | status (value : Value)
  /-- The entries of a list of collections. -/
  | catalogue (entries : List Document)
  | documents (found : List Document)
  | inserted (acknowledged : Bool) (id : Value)
  | updated (write : WriteReply)
  | deleted (write : WriteReply)
  | indexed (name : Text)
  | counted (n : Nat)

/-- The reply to a write, from the document that a server sends. -/
def WriteReply.ofDocument (acknowledged : Bool) (d : Document) : WriteReply :=
  { acknowledged
    selected := (d.get? "n").getD (.int 0)
    modified := (d.get? "nModified").getD .null
    upserted := (d.get? "upserted").getD .null }

/-- The fault of a value that cannot be written. -/
def Unwritable.fault (u : Unwritable) : Fault :=
  { kind := match u with
      | .type _ | .key _ => .type
      | .notFinite | .uuid | .tooManyDigits => .value
      | .tooEarly => .overflow
    message := u.message }

/-- The plain form of a stored value. -/
def Value.present (v : Value) : Except Fault Value :=
  (v.plain.mapError Unwritable.fault).map .ofJson

/-- The plain forms of documents. -/
def presentDocuments (documents : List Document) : Except Fault Value :=
  (Value.arr (documents.map .doc)).present

/-- The fault of asking for a count of a write that was not acknowledged. -/
def unacknowledged (count : Text) : Fault :=
  { kind := .invalidOperation
    message := "A value for " ++ count ++ " is not available when the write is unacknowledged. " ++
      "Check the acknowledged attribute to avoid this error." }

def presentInserted (acknowledged : Bool) (id : Value) : Except Fault Value := do
  return .doc [("acknowledged", .bool acknowledged), ("insertedId", ← id.present)]

/-- Whether an update put in a document. -/
def WriteReply.hasUpserted (w : WriteReply) : Bool :=
  match w.upserted with
  | .null => false
  | _ => true

/-- The result of an update. Where it put in a document, none was there to be matched. -/
def WriteReply.presentUpdated (w : WriteReply) : Except Fault Value :=
  if w.acknowledged then do
    let upserted := w.hasUpserted
    return .doc [("acknowledged", .bool true),
      ("matchedCount", if upserted then .int 0 else w.selected),
      ("modifiedCount", w.modified),
      ("upsertedCount", .int (if upserted then 1 else 0)),
      ("upsertedId", ← w.upserted.present)]
  else .error (unacknowledged "upserted_id")

def WriteReply.presentDeleted (w : WriteReply) : Except Fault Value :=
  if w.acknowledged then
    .ok (.doc [("acknowledged", .bool true), ("deletedCount", w.selected)])
  else .error (unacknowledged "deleted_count")

/-- An entry of a list of collections: its name, type and options. -/
def presentCollection (entry : Document) : Except Fault Value := do
  return .doc [("name", (entry.get? "name").getD .null), ("type", (entry.get? "type").getD .null),
    ("options", ← ((entry.get? "options").getD (.doc [])).present)]

def presentCollections : List Document → Except Fault (List Value)
  | [] => .ok []
  | entry :: rest => do return (← presentCollection entry) :: (← presentCollections rest)

/-- What a reply is shown as. -/
def Reply.present : Reply → Except Fault Value
  | created name =>
    .ok (.doc [("acknowledged", .bool true), ("collectionName", .str name),
      ("message", .str ("Collection '" ++ name ++ "' created successfully."))])
  | status value => value.present
  | catalogue entries => do return .arr (← presentCollections entries)
  | documents found => presentDocuments found
  | inserted acknowledged id => presentInserted acknowledged id
  | updated write => write.presentUpdated
  | deleted write => write.presentDeleted
  | indexed name => .ok (.str name)
  | counted n => .ok (.int n)

end QueryDesk
