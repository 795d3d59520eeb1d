import QueryDesk.Command.Basic

/-!
# The operations of the desk

Only the operations listed here are ever carried out: some address the database and some a
collection. `Command.operation?` looks a command up in the list of its kind, and its name there is
the whole test.
-/

namespace QueryDesk

/-- What can be done with the database. -/
inductive DatabaseOperation
  | createCollection
  | dropDatabase
  | listCollections
  | runCommand
  deriving DecidableEq, Repr

/-- What can be done with a collection. -/
inductive CollectionOperation
  | find
  | insertOne
  | updateOne
  | updateMany
  | deleteOne
  | deleteMany
  | createIndex
  | countDocuments
  | aggregate
  deriving DecidableEq, Repr

namespace DatabaseOperation

def name : DatabaseOperation → Text
  | createCollection => "createCollection"
  | dropDatabase => "dropDatabase"
  | listCollections => "listCollections"
  | runCommand => "runCommand"

def all : List DatabaseOperation :=
  [createCollection, dropDatabase, listCollections, runCommand]

def ofName? (name : Text) : Option DatabaseOperation :=
  all.find? fun operation => operation.name == name

/-- An operation is found by its name, and what is found has the name. -/
theorem ofName?_eq_some_iff {text : Text} {operation : DatabaseOperation} :
    ofName? text = some operation ↔ text = operation.name := by
  constructor
  · intro found
    unfold ofName? at found
    have named := List.find?_some found
    exact (eq_of_beq named).symm
  · rintro rfl
    cases operation <;> decide

end DatabaseOperation

namespace CollectionOperation

def name : CollectionOperation → Text
  | find => "find"
  | insertOne => "insertOne"
  | updateOne => "updateOne"
  | updateMany => "updateMany"
  | deleteOne => "deleteOne"
  | deleteMany => "deleteMany"
  | createIndex => "createIndex"
  | countDocuments => "countDocuments"
  | aggregate => "aggregate"

def all : List CollectionOperation :=
  [aggregate, countDocuments, createIndex, deleteMany, deleteOne, find, insertOne, updateMany,
    updateOne]

def ofName? (name : Text) : Option CollectionOperation :=
  all.find? fun operation => operation.name == name

theorem ofName?_eq_some_iff {text : Text} {operation : CollectionOperation} :
    ofName? text = some operation ↔ text = operation.name := by
  constructor
  · intro found
    unfold ofName? at found
    have named := List.find?_some found
    exact (eq_of_beq named).symm
  · rintro rfl
    cases operation <;> decide

end CollectionOperation

/-- An operation with what it is addressed to. -/
inductive Operation
  | database (operation : DatabaseOperation)
  | collection (name : Text) (operation : CollectionOperation)
  deriving DecidableEq, Repr

/-- The operation that a command asks for, if it is one of those of its kind. -/
def Command.operation? (c : Command) : Option Operation :=
  match c.target with
  | .database => (DatabaseOperation.ofName? c.operation).map .database
  | .collection name => (CollectionOperation.ofName? c.operation).map (.collection name)

end QueryDesk
