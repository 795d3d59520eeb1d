import QueryDesk.Json.Printer
import QueryDesk.Store.Reply
import QueryDesk.Text.Encoding

/-!
# Requests and responses

The parts of HTTP messages that the service looks at and writes. Names of headers are compared in
any letter case, and of a repeated header the first one counts. A header is made of bytes, and the
service takes each of them for one character (`asReceived`). The body of a response is the text of a
value in UTF-8 (`bodyOf`). A value that is no JSON has none, nor has one with a number that is not
finite, with a whole number of too many digits, or with half of a pair of UTF-16 units alone in a
string.
-/

namespace QueryDesk.Http

structure Request where
  method : String
  path : String
  headers : List (String × String) := []
  body : List UInt8 := []

/-- A response; its body is sent in UTF-8, so it is made of characters only. -/
structure Response where
  status : Nat
  headers : List (String × String)
  body : String
  deriving DecidableEq, Repr

/-- A text with its ASCII letters small. -/
def lowercase (s : String) : String :=
  .ofList (s.toList.map Char.toLower)

/-- A header as the service reads it: one character for each byte that was sent. -/
def asReceived (sent : String) : String :=
  .ofList ((Text.utf8Bytes sent).map fun b => Char.ofNat b.toNat)

/-- The value of a header as it was sent. -/
def Request.header? (r : Request) (name : String) : Option String :=
  (r.headers.find? fun header => lowercase header.1 == name).map Prod.snd

/-- The path of a request without what follows a question mark or a number sign. -/
def Request.place (r : Request) : String :=
  .ofList (r.path.toList.takeWhile fun c => c ≠ '?' && c ≠ '#')

/-- The body that a value is sent as. -/
def bodyOf (value : Value) : Except Fault String := do
  let json ← (value.verbatim .refused).mapError Unwritable.fault
  match json.wire? with
  | none => .error (Unwritable.fault .tooManyDigits)
  | some text => text.encode.mapError Text.LoneHalves.fault

namespace Response

/-- The type of JSON bodies. -/
def jsonType : String × String :=
  ("content-type", "application/json")

/-- What is sent if the body of a response cannot be written. -/
def internalError : Response :=
  { status := 500
    headers := [("content-type", "text/plain; charset=utf-8")]
    body := "Internal Server Error" }

/-- A response with a JSON body and further headers. -/
def ofValue (status : Nat) (body : Value) (more : List (String × String)) :
    Except Fault Response :=
  return { status, headers := jsonType :: more, body := ← bodyOf body }

end Response

end QueryDesk.Http
