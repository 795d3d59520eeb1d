import QueryDesk.Schema.Fault
import QueryDesk.Store.Value

/-!
# What comes in and what goes out

A request holds a query or none. An envelope holds the query as it came, the command that was found
in the generator's draft, and the result of that command. On the wire its fields have names of their
own; a program that builds one may use those or the plain ones, and cannot change it afterwards.
-/

namespace QueryDesk

/-- The query of a request. -/
abbrev Query := Option Text

/-- The query in the members of a request: null counts as none, and other members do not matter. -/
def Query.ofMembers (members : Members Json) : Except Schema.Fault Query :=
  match members.get? "query" with
  | none | some .null => .ok none
  | some value => (Schema.text "query" value).map some

/-- The answer to a query. -/
structure Envelope where
  userQuery : Text
  generatedCommand : Text
  result : Value

namespace Envelope

/-- The form of an envelope on the wire. -/
def document (e : Envelope) : Value :=
  .doc [("userQuery", .str e.userQuery), ("generatedCommand", .str e.generatedCommand),
    ("dbResult", e.result)]

/-- A field under its name on the wire or its plain name, and which of the two it was found under.
A missing one is looked for under the first. -/
def field (fields : Members Json) (onWire plain : Text) : Text × Option Json :=
  match fields.get? onWire, fields.get? plain with
  | some value, _ => (onWire, some value)
  | none, some value => (plain, some value)
  | none, none => (onWire, none)

def textField (fields : Members Json) (onWire plain : Text) : Except Schema.Fault Text :=
  let (name, value) := field fields onWire plain
  Schema.text name value

/-- A field that may be anything. -/
def anyField (fields : Members Json) (onWire plain : Text) : Except Schema.Fault Json :=
  match field fields onWire plain with
  | (_, some value) => .ok value
  | (name, none) => .error ⟨name, .missing⟩

/-- The envelope that fields make, or everything that is wrong with them. -/
def ofFields (fields : Members Json) : Except (List Schema.Fault) Envelope :=
  let query := textField fields "userQuery" "user_query"
  let command := textField fields "generatedCommand" "generated_command"
  let result := anyField fields "dbResult" "db_result"
  match query, command, result with
  | .ok userQuery, .ok generatedCommand, .ok result =>
    .ok { userQuery, generatedCommand, result := .ofJson result }
  | _, _, _ =>
    .error ([Schema.fault? query, Schema.fault? command, Schema.fault? result].filterMap id)

/-- The fault of changing a field of an envelope. -/
def changed (name : Text) : Schema.Fault :=
  ⟨name, .frozen⟩

end Envelope

end QueryDesk
