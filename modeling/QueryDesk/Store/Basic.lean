import QueryDesk.Store.Reply
import QueryDesk.Store.Request
import QueryDesk.Text.Encoding

/-!
# A store in memory

A store holds collections of documents in the order of their creation. It keeps a log of the
requests it was given, and can be told how to answer: with a fault, with a scripted reply, or with
scripted documents for an aggregation. `Store.perform` carries out one request: it is logged, then a
scripted fault ends it, and only then is it done. Filters ask for equality of top-level members, and
a member that is missing counts as null.
-/

namespace QueryDesk

structure Collection where
  name : Text
  documents : List Document := []
  /-- What an aggregation gives. -/
  aggregation : List Document := []
  /-- What every call to the collection ends with. -/
  fault : Option Fault := none
  /-- What an update or a deletion is answered with. -/
  writeReply : Option WriteReply := none

structure Store where
  name : Text := "testdb"
  /-- The collections in the order of their creation. -/
  collections : List Collection := []
  fault : Option Fault := none
  /-- What a command is answered with. -/
  commandReply : Option Value := none
  /-- The collections that were created by request, with their options. -/
  created : List (Text × Members Json) := []
  /-- The commands that were run. -/
  commands : List Json := []
  /-- How many insertions took place. -/
  insertions : Nat := 0
  /-- Whether documents are encoded as BSON before they are inserted. -/
  encodes : Bool := false
  /-- The requests that reached the store, in order. -/
  log : List Request := []

namespace Store

/-! ## Collections -/

def find? (s : Store) (name : Text) : Option Collection :=
  s.collections.find? fun c => c.name == name

/-- The collection of a name; a missing one is empty. -/
def collection (s : Store) (name : Text) : Collection :=
  (s.find? name).getD { name }

/-- The store with a collection of this name. -/
def touch (s : Store) (name : Text) : Store :=
  match s.find? name with
  | some _ => s
  | none => { s with collections := s.collections ++ [{ name }] }

/-- The store with one collection changed. -/
def modify (s : Store) (name : Text) (change : Collection → Collection) : Store :=
  { s with collections := s.collections.map fun c => if c.name == name then change c else c }

def documents (s : Store) (name : Text) : List Document :=
  (s.collection name).documents

def record (s : Store) (request : Request) : Store :=
  { s with log := s.log ++ [request] }

end Store

/-! ## Filters -/

/-- Whether a document satisfies a filter: every member of the filter equals the document's. -/
def Document.satisfies (d : Document) (filter : Members Json) : Bool :=
  filter.all fun (name, value) => ((d.get? name).getD .null).equals (.ofJson value)

/-- The documents without the first one that satisfies a filter. -/
def eraseFirst (filter : Members Json) : List Document → List Document
  | [] => []
  | d :: rest => if Document.satisfies d filter then rest else d :: eraseFirst filter rest

/-! ## What BSON can hold -/

def numberTooLarge : Fault :=
  ⟨.overflow, "MongoDB can only handle up to 8-byte ints"⟩

def nullInName : Fault :=
  ⟨.invalidDocument, "Invalid document: Key names must not contain the NULL byte"⟩

/-- The fault of a text that has no form in UTF-8. -/
def textFault? (s : Text) : Option Fault :=
  match s.encode with
  | .ok _ => none
  | .error found => some found.fault

/-- The fault of a name: it has to be encoded, and a null would end it early. -/
def nameFault? (name : Text) : Option Fault :=
  textFault? name <|> if name.toList.any (· == .ofNat 0) then some nullInName else none

mutual

/-- The first fault that encoding a value as BSON meets. -/
def encodingFault? : Json → Option Fault
  | .int n => if -Int.pow 2 63 ≤ n && n < Int.pow 2 63 then none else some numberTooLarge
  | .str s => textFault? s
  | .arr items => itemsFault? items
  | .obj members => membersFault? members
  | _ => none

def itemsFault? : List Json → Option Fault
  | [] => none
  | item :: rest => encodingFault? item <|> itemsFault? rest

/-- The first fault among members, each of whose names comes before its value. -/
def membersFault? : List (Text × Json) → Option Fault
  | [] => none
  | (name, value) :: rest =>
    nameFault? name <|> encodingFault? value <|> membersFault? rest

end

/-- The first fault of a whole document, whose identifier is encoded before its other members. -/
def documentFault? (document : Members Json) : Option Fault :=
  membersFault? (document.filter (·.1 == "_id")) <|>
    membersFault? (document.filter (·.1 != "_id"))

/-! ## Carrying out requests -/

/-- A name that stands for a parameter of the call and cannot be an option as well. -/
def clashingOption? (options : Members Json) : Option Text :=
  options.names.find? fun name => name == "name" || name == "self"

def clash (name : Text) : Fault :=
  { kind := .type
    message := "AsyncDatabase.create_collection() got multiple values for argument " ++
      Text.quoted name }

/-- What stops a request before it reaches the store. -/
def Request.refusal? (s : Store) : Request → Option Fault
  | .database (.createCollection _ options) => (clashingOption? options).map clash
  | .collection _ (.insertOne document) => if s.encodes then documentFault? document else none
  | _ => none

/-- The scripted fault that a request meets. -/
def Request.scriptedFault? (s : Store) : Request → Option Fault
  | .database _ => s.fault
  | .collection name _ => (s.collection name).fault

/-- The entry of a collection in the list of collections. -/
def Collection.entry (c : Collection) : Document :=
  [("name", .str c.name), ("type", .str "collection"), ("options", .doc []),
    ("info", .doc [("readOnly", .bool false)])]

/-- The name of an index: fields and directions. -/
def indexName (keys : Members Json) : Except Unwritable Text :=
  return Text.intercalate "_" (← keys.mapM fun (field, direction) =>
    return field ++ "_" ++ (← (Value.ofJson direction).plainName))

/-- The document that an insertion adds: it gets an identifier at the end if it has none. -/
def identified (id : BitVec 96) (document : Members Json) : Document :=
  let d : Document := Value.ofMembers document
  if (d.get? "_id").isSome then d else d ++ ([("_id", .objectId id)] : Document)

namespace Store

def onDatabase (s : Store) : DatabaseRequest → Store × Except Fault Reply
  | .createCollection name options =>
    match s.find? name with
    | some _ =>
      (s, .error ⟨.operation, "Collection " ++ s.name ++ "." ++ name ++ " already exists."⟩)
    | none =>
      (touch { s with created := s.created ++ [(name, options)] } name, .ok (.created name))
  | .dropDatabase =>
    ({ s with collections := [], commands := s.commands ++ [.str "dropDatabase"] },
      .ok (.status (s.commandReply.getD
        (.doc [("ok", .double .one), ("dropped", .str s.name)]))))
  | .listCollections filter =>
    (s, .ok (.catalogue ((s.collections.map Collection.entry).filter
      fun entry => Document.satisfies entry filter)))
  | .runCommand command =>
    ({ s with commands := s.commands ++ [.obj command] },
      .ok (.status (s.commandReply.getD (.doc [("ok", .double .one)]))))

/-- The reply to a write that touched `n` documents, or the scripted one. -/
def writeReply (s : Store) (name : Text) (n : Nat) (modified : Value) : WriteReply :=
  (s.collection name).writeReply.getD { acknowledged := true, selected := .int n, modified }

def onCollection (s : Store) (name : Text) : CollectionRequest → Store × Except Fault Reply
  | .find filter limit =>
    (s, .ok (.documents (((s.documents name).filter (Document.satisfies · filter)).take limit)))
  | .insertOne document =>
    -- a number is used up even if the document brings its own identifier
    let d := identified (BitVec.ofNat 96 (s.insertions + 1)) document
    let s' := { s with insertions := s.insertions + 1 }
    (s'.modify name fun c => { c with documents := c.documents ++ [d] },
      .ok (.inserted true ((d.get? "_id").getD .null)))
  | .updateOne filter _ =>
    let n := min 1 ((s.documents name).countP (Document.satisfies · filter))
    (s, .ok (.updated (s.writeReply name n (.int n))))
  | .updateMany filter _ =>
    let n := (s.documents name).countP (Document.satisfies · filter)
    (s, .ok (.updated (s.writeReply name n (.int n))))
  | .deleteOne filter =>
    let n := min 1 ((s.documents name).countP (Document.satisfies · filter))
    (s.modify name fun c => { c with documents := eraseFirst filter c.documents },
      .ok (.deleted (s.writeReply name n .null)))
  | .deleteMany filter =>
    let n := (s.documents name).countP (Document.satisfies · filter)
    (s.modify name fun c =>
        { c with documents := c.documents.filter fun d => !Document.satisfies d filter },
      .ok (.deleted (s.writeReply name n .null)))
  | .createIndex keys => (s, ((indexName keys).mapError Unwritable.fault).map .indexed)
  | .countDocuments filter =>
    (s, .ok (.counted ((s.documents name).countP (Document.satisfies · filter))))
  | .aggregate _ => (s, .ok (.documents (s.collection name).aggregation))

/-- Carries out one request. -/
def perform (s : Store) (request : Request) : Store × Except Fault Reply :=
  match request.refusal? s with
  | some fault => (s, .error fault)
  | none =>
    -- from here on the store has seen the request, whatever becomes of it
    let s := s.record request
    match request.scriptedFault? s with
    | some fault => (s, .error fault)
    | none =>
      match request with
      | .database r => s.onDatabase r
      | .collection name r => s.onCollection name r

end Store

end QueryDesk
