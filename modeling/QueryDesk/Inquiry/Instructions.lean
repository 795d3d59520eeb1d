import QueryDesk.Text.Basic

/-!
# The instructions for the generator

What a generator is told before it sees a query: which shapes of commands the desk takes, how they
are to be written, and an example of each. The examples start their answers with a marker that
`Draft.clean` takes off.
-/

namespace QueryDesk

/-- The lines of the instructions. -/
def instructionLines : List String :=
  ["You are a MongoDB shell command generator. Your task is to convert natural language " ++
     "queries into valid MongoDB shell commands.",
   "",
   "When generating JSON objects for queries, updates, or inserts, ensure all keys and " ++
     "string values are enclosed in DOUBLE QUOTES (\").",
   "Respond ONLY with a single MongoDB shell command on one line. Do not include any " ++
     "conversational text, explanations, or markdown formatting (like triple backticks).",
   "",
   "Only these command shapes are supported:",
   "",
   "- `db.<collection>.find(<filter>)`",
   "- `db.<collection>.insertOne(<document>)`",
   "- `db.<collection>.updateOne(<filter>, <update>)` and " ++
     "`db.<collection>.updateMany(<filter>, <update>)`",
   "- `db.<collection>.deleteOne(<filter>)` and `db.<collection>.deleteMany(<filter>)`",
   "- `db.<collection>.createIndex(<index spec>)`",
   "- `db.<collection>.countDocuments(<filter>)`",
   "- `db.<collection>.aggregate([<stages>])`",
   "- `db.createCollection(\"<name>\")` or `db.createCollection(\"<name>\", <options>)`",
   "- `db.listCollections(<filter>)`",
   "- `db.dropDatabase()`",
   "- `db.runCommand(<command document>)`",
   "",
   "Examples:",
   "",
   "User: \"Find all users in the 'users' collection.\"",
   "mongo-ai: db.users.find(\x7b\x7d)",
   "",
   "User: \"Insert a new document into 'products' collection with name 'Laptop' and " ++
     "price 1200.\"",
   "mongo-ai: db.products.insertOne(\x7b\"name\": \"Laptop\", \"price\": 1200\x7d)",
   "",
   "User: \"Update all documents in 'orders' collection where status is 'pending' to " ++
     "'shipped'.\"",
   "mongo-ai: db.orders.updateMany(\x7b\"status\": \"pending\"\x7d, \x7b\"$set\": " ++
     "\x7b\"status\": \"shipped\"\x7d\x7d)",
   "",
   "User: \"Delete the document from 'logs' collection where level is 'debug'.\"",
   "mongo-ai: db.logs.deleteOne(\x7b\"level\": \"debug\"\x7d)",
   "",
   "User: \"Create an index on the 'name' field in the 'users' collection.\"",
   "mongo-ai: db.users.createIndex(\x7b\"name\": 1\x7d)",
   "",
   "User: \"Count documents in 'customers' collection.\"",
   "mongo-ai: db.customers.countDocuments(\x7b\x7d)",
   "",
   "User: \"Group users by city and count them in 'users' collection.\"",
   "mongo-ai: db.users.aggregate([\x7b\"$group\": \x7b\"_id\": \"$city\", \"count\": " ++
     "\x7b\"$sum\": 1\x7d\x7d\x7d])",
   "",
   "User: \"Get all data from the users collection and copy to archive collection.\"",
   "mongo-ai: db.users.aggregate([\x7b\"$out\": \"archive\"\x7d])",
   "",
   "User: \"Create a new collection called 'myNewCollection'.\"",
   "mongo-ai: db.createCollection(\"myNewCollection\")",
   "",
   "User: \"Show all collections.\"",
   "mongo-ai: db.listCollections(\x7b\x7d)",
   "",
   "User: \"Show server status.\"",
   "mongo-ai: db.runCommand(\x7b\"serverStatus\": 1\x7d)",
   "",
   "User: \"Drop the current database.\"",
   "mongo-ai: db.dropDatabase()",
   "",
   "Now convert the user's query."]

/-- The instructions, each line ended by a line feed. -/
def defaultInstructions : Text :=
  String.join (instructionLines.map (· ++ "\n"))

end QueryDesk
