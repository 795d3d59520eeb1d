import QueryDesk.Command.Balance
import QueryDesk.Text.Blank
import QueryDesk.Text.Quoted
import QueryDesk.Text.Word

/-!
# Commands and their two shapes

A command names an operation and carries the text of its arguments. It is addressed to the database
or to one collection:

* `db.operation(arguments)`
* `db.collection.operation(arguments)`

`Command.render` writes a command in its shape and `Command.ofText?` recognises it, apart from
blanks around it. The shapes are told apart by what follows the first name, and the arguments have
to be balanced, so nothing can follow the closing parenthesis.
-/

namespace QueryDesk

/-- What a command is addressed to. -/
inductive Target
  | database
  | collection (name : Text)
  deriving DecidableEq, Repr

/-- A command with its arguments undecoded. -/
structure Command where
  target : Target
  operation : Text
  /-- The text between the parentheses. -/
  arguments : Text
  deriving DecidableEq, Repr

def Target.kindName : Target → Text
  | database => "db_level"
  | collection _ => "collection_level"

def Target.collection? : Target → Option Text
  | database => none
  | collection name => some name

namespace Command

/-- The text of a command. -/
def render (c : Command) : List Letter :=
  let call := c.operation.toList ++ .char '(' :: c.arguments.toList ++ [.char ')']
  match c.target with
  | .database => ("db." : Text).toList ++ call
  | .collection name => ("db." : Text).toList ++ name.toList ++ .char '.' :: call

/-- A name at the start of a text, and what follows it. -/
def word? (s : List Letter) : Option (Text × List Letter) :=
  match s.takeWhile Text.isWord with
  | [] => none
  | name => some (.ofList name, s.dropWhile Text.isWord)

/-- The arguments of a call whose opening parenthesis is behind: balanced text up to the closing
parenthesis at the very end. -/
def arguments? (s : List Letter) : Option Text :=
  if s.getLast? = some (.char ')') && isBalanced s.dropLast then some (.ofList s.dropLast) else none

/-- The command after `db.`. -/
def afterDatabase? (s : List Letter) : Option Command :=
  match word? s with
  | some (name, .char '(' :: rest) =>
    (arguments? rest).map fun arguments => ⟨.database, name, arguments⟩
  | some (name, .char '.' :: rest) =>
    match word? rest with
    | some (operation, .char '(' :: rest) =>
      (arguments? rest).map fun arguments => ⟨.collection name, operation, arguments⟩
    | _ => none
  | _ => none

/-- The command that a text is, apart from blanks around it. -/
def ofText? (s : List Letter) : Option Command :=
  match Text.trim s with
  | .char 'd' :: .char 'b' :: .char '.' :: rest => afterDatabase? rest
  | _ => none

/-! ## Commands from parts -/

/-- Why parts make no command. -/
inductive Mismatch
  /-- No kind of command has this name. -/
  | unknownKind (name : Text)
  /-- A collection is named for a command on the database, or none for one on a collection. -/
  | collection
  deriving DecidableEq, Repr

def Mismatch.message : Mismatch → Text
  | unknownKind name => Text.quoted name ++ " is not a valid CommandKind"
  | collection => "collection must be set iff kind is collection_level"

/-- What a command is addressed to, by the name of its kind and an optional collection. -/
def target? (kind : Text) (collection : Option Text) : Except Mismatch Target :=
  if kind = "db_level" then
    match collection with
    | none => .ok .database
    | some _ => .error .collection
  else if kind = "collection_level" then
    match collection with
    | some name => .ok (.collection name)
    | none => .error .collection
  else .error (.unknownKind kind)

/-- The command of some parts, or what is said about parts that make none. -/
def ofParts (kind operation arguments : Text) (collection : Option Text) :
    Except Text Command :=
  match target? kind collection with
  | .ok target => .ok ⟨target, operation, arguments⟩
  | .error mismatch => .error mismatch.message

/-- What stops a text from being executed that has neither shape. -/
def unparseable : Text :=
  "Could not parse generated MongoDB command. " ++
    "It might be malformed or an unsupported operation type."

end Command

end QueryDesk
