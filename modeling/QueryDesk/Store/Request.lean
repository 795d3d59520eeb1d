import QueryDesk.Json.Basic

/-!
# Requests to a store

A request is one operation of the store with decoded arguments, addressed to the database or to one
collection. Everything that a command can have done is one of these.
-/

namespace QueryDesk

/-- An operation on the database. -/
inductive DatabaseRequest
  | createCollection (name : Text) (options : Members Json)
  | dropDatabase
  | listCollections (filter : Members Json)
  | runCommand (command : Members Json)

/-- An operation on a collection. -/
inductive CollectionRequest
  /-- The first `limit` documents that satisfy a filter. -/
  | find (filter : Members Json) (limit : Nat)
  | insertOne (document : Members Json)
  | updateOne (filter : Members Json) (update : Json)
  | updateMany (filter : Members Json) (update : Json)
  | deleteOne (filter : Members Json)
  | deleteMany (filter : Members Json)
  | createIndex (keys : Members Json)
  | countDocuments (filter : Members Json)
  | aggregate (pipeline : List Json)

/-- An operation of the store. -/
inductive Request
  | database (request : DatabaseRequest)
  | collection (name : Text) (request : CollectionRequest)

end QueryDesk
