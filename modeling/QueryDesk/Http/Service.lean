import QueryDesk.Http.Body
import QueryDesk.Inquiry.Basic

/-!
# The service

Two routes: one tells that the service is up, the other answers a query. A request that gets as far
as a draft has an envelope, whatever becomes of the command. Only a missing query (400) and a failed
generator (500) have a status of their own. The body is written after the status is settled, and a
body that cannot be written or put into UTF-8 leaves the request without a response of its own
(`Response.internalError`). A path with slashes at its end is sent on to the path without them.

Browsers may call the service from the pages of permitted origins; a response names the origin that
is let in.
-/

namespace QueryDesk.Http

/-- The pages that browsers may call the service from. -/
inductive Origins
  | any
  | listed (origins : List Text)
  deriving DecidableEq, Repr

namespace Origins

/-- The origins of a setting: if none is listed, or the list holds a star, any. -/
def ofList (origins : List Text) : Origins :=
  if origins.isEmpty || origins.contains "*" then any else listed origins

/-- The header that lets a page in, for a request that names its origin. -/
def header? (origins : Origins) (origin : Option String) : Option (String × String) :=
  match origins, origin with
  | _, none => none
  | any, some _ => some ("access-control-allow-origin", "*")
  | listed allowed, some origin =>
    if allowed.contains (asReceived origin) then some ("access-control-allow-origin", origin)
    else none

end Origins

/-- The places of the service. -/
inductive Route
  | health
  | query
  deriving DecidableEq, Repr

namespace Route

/-- The one method of a place. -/
def method : Route → String
  | health => "GET"
  | query => "POST"

def path : Route → String
  | health => "/health"
  | query => "/api/mongo-ai"

def ofPath? (path : String) : Option Route :=
  if path = health.path then some health else if path = query.path then some query else none

/-- The place that a path without the slashes at its end names. -/
def nearPath? (path : String) : Option Route :=
  ofPath? (.ofList (path.toList.reverse.dropWhile (· = '/')).reverse)

end Route

/-- What introduces the failure of a query that got as far as the generator. -/
def failureMessage : Text :=
  "Failed to process query with AI or execute MongoDB command."

/-- Status and body of the response to a query. -/
def answerParts : Except InquiryFault Envelope → Nat × Value
  | .ok envelope => (200, envelope.document)
  | .error .missingQuery =>
    (400, .doc [("error", .str InquiryFault.missingQuery.message)])
  | .error fault =>
    (500, .doc [("error", .str failureMessage), ("details", .str fault.message)])

/-- What became of a request: the store afterwards, and the response unless it could not be
written. -/
structure Exchange where
  store : Store
  /-- What the generator was asked, if it was. -/
  asked : Option Question := none
  status : Nat
  body : Option Value
  /-- Headers of the response, apart from the type of its body and the origin that is let in. -/
  headers : List (String × String) := []

/-- What the service says to a request that reaches neither place as it should. -/
def unrouted (s : Store) (status : Nat) (message : Text)
    (headers : List (String × String)) : Exchange :=
  { store := s, status, body := some (.ofJson (detail (.str message))), headers }

/-- What the service says to a request that belongs to another path. -/
def elsewhere (s : Store) (route : Route) : Exchange :=
  { store := s, status := 307, body := none, headers := [("location", route.path)] }

def exchangeQuery (desk : Desk) (s : Store) (r : Request) (generation : Generation) : Exchange :=
  match r.query with
  | .error fault =>
    { store := s, status := fault.response.1, body := some (.ofJson fault.response.2) }
  | .ok query =>
    let inquiry := desk.answer s query generation
    { store := inquiry.store
      asked := inquiry.asked
      status := (answerParts inquiry.result).1
      body := some (answerParts inquiry.result).2 }

/-- The exchange of a request. -/
def exchange (desk : Desk) (s : Store) (r : Request) (generation : Generation) : Exchange :=
  match Route.ofPath? r.place with
  | none =>
    match Route.nearPath? r.place with
    | some route => elsewhere s route
    | none => unrouted s 404 "Not Found" []
  | some route =>
    if r.method ≠ route.method then unrouted s 405 "Method Not Allowed" [("allow", route.method)]
    else
      match route with
      | .health => { store := s, status := 200, body := some (.doc [("status", .str "ok")]) }
      | .query => exchangeQuery desk s r generation

/-- The response of an exchange, if its body can be sent. -/
def Exchange.response (e : Exchange) (origins : Origins) (r : Request) : Except Fault Response :=
  let allowed := (origins.header? (r.header? "origin")).toList
  match e.body with
  | some body => Response.ofValue e.status body (e.headers ++ allowed)
  | none => .ok { status := e.status, headers := e.headers ++ allowed, body := "" }

/-- What is delivered for an exchange, and the fault that keeps its own response from that. -/
def Exchange.delivered (e : Exchange) (origins : Origins) (r : Request) :
    Response × Option Fault :=
  match e.response origins r with
  | .ok response => (response, none)
  | .error fault => (.internalError, some fault)

end QueryDesk.Http
