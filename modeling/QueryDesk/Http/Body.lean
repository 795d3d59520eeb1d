import QueryDesk.Http.Message
import QueryDesk.Json.Bytes
import QueryDesk.Text.Blank
import QueryDesk.Inquiry.Envelope

/-!
# The body of a request

The body is read as JSON if its type says so; in any other type, and without one, it is a text.
An empty body and the value null count as no body, and without a body there is no query. Anything
else has to be an object whose query, if it has one, is a text.
-/

namespace QueryDesk.Http

/-- Why a body is refused. -/
inductive BodyFault
  /-- The body is no JSON. -/
  | syntaxAt (fault : Json.SyntaxFault) (place : Text.Place)
  /-- The body is no text, or holds a whole number with too many digits. -/
  | unreadable
  /-- The body holds something else than a request. -/
  | notObject (found : Json)
  | queryNotText (found : Json)

/-- The part of a content type before its parameters, in small letters. -/
def mediaType (contentType : String) : List Letter :=
  (Text.trim ((asReceived contentType : Text).toList.takeWhile (· ≠ .char ';'))).map Letter.toLower

/-- Whether a content type is that of JSON: an application type whose second part is `json` or ends
in `+json`. -/
def isJsonType (contentType : String) : Bool :=
  let type := mediaType contentType
  let suffix : Text := "+json"
  let second := (type.dropWhile (· ≠ .char '/')).drop 1
  type.takeWhile (· ≠ .char '/') = ("application" : Text).toList && type.count (.char '/') = 1 &&
    (second = ("json" : Text).toList || suffix.toList.isSuffixOf second)

/-- The text of a body that is not JSON. No half of a pair is taken for a letter there. -/
def plainText (body : List UInt8) : Except BodyFault Json :=
  match Text.decodeUtf8? body with
  | some s => if s.all Letter.isCharacter then .ok (.str (.ofList s)) else .error .unreadable
  | none => .error .unreadable

/-- The value that a body holds. -/
def bodyValue (contentType : Option String) (body : List UInt8) : Except BodyFault Json :=
  if isJsonType (contentType.getD "") then
    match Json.readBytes body with
    | .ok value => .ok value
    | .error (.text (.syntaxAt fault place)) => .error (.syntaxAt fault place)
    | .error _ => .error .unreadable
  else plainText body

/-- The query in the value of a body. -/
def queryOf : Json → Except BodyFault Query
  | .null => .ok none
  | .obj members =>
    match Query.ofMembers members with
    | .ok query => .ok query
    -- the query is the only member that is looked at
    | .error _ => .error (.queryNotText ((Members.get? members "query").getD .null))
  | other => .error (.notObject other)

def Request.query (r : Request) : Except BodyFault Query :=
  if r.body.isEmpty then .ok none
  else
    match bodyValue (r.header? "content-type") r.body with
    | .ok value => queryOf value
    | .error fault => .error fault

/-! ## The response to a refused body -/

/-- A problem with the body in the form of a response. -/
def problemJson (problem : Schema.Problem) (location : List Json) (found : Json) : Json :=
  .obj [("type", .str problem.kind), ("loc", .arr location), ("msg", .str problem.message),
    ("input", found)]

/-- A departure from the grammar in the form of a response. -/
def syntaxJson (fault : Json.SyntaxFault) (place : Text.Place) : Json :=
  .obj [("type", .str "json_invalid"), ("loc", .arr [.str "body", .int place.offset]),
    ("msg", .str "JSON decode error"), ("input", .obj []),
    ("ctx", .obj [("error", .str fault.describe)])]

/-- A body with details. -/
def detail (value : Json) : Json :=
  .obj [("detail", value)]

/-- Status and body of the response to a refused body. -/
def BodyFault.response : BodyFault → Nat × Json
  | syntaxAt fault place => (422, detail (.arr [syntaxJson fault place]))
  | unreadable => (400, detail (.str "There was an error parsing the body"))
  | notObject found => (422, detail (.arr [problemJson .notRecord [.str "body"] found]))
  | queryNotText found =>
    (422, detail (.arr [problemJson .notText [.str "body", .str "query"] found]))

end QueryDesk.Http
