import QueryDesk.Json.Reader
import QueryDesk.Text.Encoding

/-!
# JSON in bytes

A message that came over a network is JSON in bytes. Its encoding is found out first; a byte order
mark is part of the encoding, not of the text, and the names of non-finite numbers count as values.
-/

namespace QueryDesk.Json

/-- Why bytes are no JSON. -/
inductive BytesFault
  | undecodable
  | text (fault : ReadFault)
  deriving DecidableEq, Repr

/-- Reads bytes as one JSON value. -/
def readBytes (bytes : List UInt8) : Except BytesFault Json :=
  match Text.decode? bytes with
  | none => .error .undecodable
  | some s => (read .accepted s).mapError .text

end QueryDesk.Json
